import UpnpBind.GoSource.Ast
import UpnpBind.Text.Blank
import UpnpBind.Text.Letter

/-!
# Doc comments in their standard form

A comment group right above a top-level declaration, starting in the first
column, is its documentation, and is rewritten in the standard form of doc
comments. Its text, without the comment markers and one blank after them, is
split into blocks:

* a code block is a run of indented lines, printed indented by one tab;
* a list is an indented run starting with a bullet (`-`, `*`, `+`, `•`) or a
  number followed by `.` or `)`, printed as `  - item` or `  1. item`;
* a heading is a line starting with `# `, or a lone capitalized line without
  punctuation between blank lines, printed as `# heading`;
* a paragraph is any other run of lines, printed as it is.

Blocks are separated by one blank comment line, and common indentation and
trailing blank lines are removed. Paragraphs made only of link definitions
(`[text]: url`) move to the end, those used in the text first. Directive lines
such as `//go:generate` are kept apart and placed last.
-/

namespace UpnpBind.GoSource

namespace DocText

/-- Whether a character is a blank or a tab. -/
def isIndentChar (c : Char) : Bool := c == ' ' || c == '\t'

/-- The leading blanks and tabs of a line. -/
def leadingSpace (s : String) : String := String.ofList (s.toList.takeWhile isIndentChar)

/-- The longest common prefix of two texts. -/
def commonPrefix (a b : String) : String :=
  let rec go : List Char → List Char → List Char
    | x :: xs, y :: ys => if x == y then x :: go xs ys else []
    | _, _ => []
  String.ofList (go a.toList b.toList)

/-- Whether a line is empty or a lone newline. -/
def isBlankLine (s : String) : Bool := s.isEmpty || s == "\n"

/-- Drops blank lines at both ends of a list of lines. -/
def trimBlankLines (p : String → Bool) (lines : List String) : List String :=
  ((lines.dropWhile p).reverse.dropWhile p).reverse

/-- Removes the indentation all non-blank lines share, empties lines of only
blanks, and drops blank lines at both ends. -/
def unindent (lines : List String) : List String :=
  match trimBlankLines isBlankLine lines with
  | [] => []
  | first :: rest =>
    let pre := rest.foldl (fun pre l => if isBlankLine l then pre else commonPrefix pre (leadingSpace l))
      (leadingSpace first)
    let out := (first :: rest).map fun l =>
      let l := if l.startsWith pre then l.drop pre.length |>.toString else l
      if (Text.trimBlank l).isEmpty then "" else l
    trimBlankLines String.isEmpty out

/-- Whether a line starts with a blank or a tab. -/
def indented (s : String) : Bool :=
  match s.toList with
  | c :: _ => isIndentChar c
  | [] => false

/-- The number of a list marker starting a line ("" for a bullet) and the rest
of the line, when the line starts a list item. -/
def listMarker (line : String) : Option (String × String) :=
  let cs := Text.trimBlankList line.toList
  let found : Option (String × List Char) := match cs with
    | [] => none
    | c :: rest =>
      if c == '•' || c == '*' || c == '+' || c == '-' then some ("", rest)
      else if '0' ≤ c && c ≤ '9' then
        let digits := cs.takeWhile fun d => '0' ≤ d && d ≤ '9'
        match cs.drop digits.length with
        | m :: rest => if m == '.' || m == ')' then some (String.ofList digits, rest) else none
        | [] => none
      else none
  match found with
  | some (num, rest) =>
    let restText := String.ofList rest
    if !indented restText || (Text.trimBlankList rest).isEmpty then none else some (num, restText)
  | none => none

/-- Whether a line starts a list item. -/
def isList (line : String) : Bool := (listMarker line).isSome

/-- Whether a line is a heading of the form `# text`. -/
def isHeading (line : String) : Bool :=
  match line.toList with
  | '#' :: c :: _ => (c == ' ' || c == '\t') && Text.trimBlank line != "#"
  | _ => false

/-- The text after each occurrence of a character. -/
def afterEach (s : List Char) (c : Char) : List (List Char) :=
  match s with
  | [] => []
  | x :: xs => if x == c then xs :: afterEach xs c else afterEach xs c

/-- Whether the line at `off` is a lone capitalized line between blank lines,
followed by an unindented one, without the punctuation of sentences. -/
def isOldHeading (lines : Array String) (off : Nat) : Bool :=
  if off == 0 || lines.getD (off - 1) "x" != "" || off + 2 ≥ lines.size || lines.getD (off + 1) "x" != ""
      || leadingSpace (lines.getD (off + 2) "") != "" then false
  else
    let line := (Text.trimBlankList (lines.getD off "").toList)
    match line.head?, line.getLast? with
    | some f, some l =>
      Text.isLetter f && Text.isUpper f && (Text.isLetter l || Text.isDecimalDigit l)
        && !(line.any fun c => ";:!?+*/=[]{}_^°&§~%#@<\">\\".toList.contains c)
        && (afterEach line '\'').all (fun b => b == ['s'] || b.take 2 == ['s', ' '])
        && (afterEach line '.').all (fun b => !(b.isEmpty || b.head? == some ' '))
    | _, _ => false

/-- The kinds of runs of lines. -/
inductive SpanKind where
  | para
  | code
  | list
  | heading
  | oldHeading
deriving DecidableEq

/-- A run of lines, from `start` to before `stop`. -/
structure Span where
  start : Nat
  stop : Nat
  kind : SpanKind

/-- The first line from `i` on that is not empty. -/
def skipEmpty (lines : Array String) : Nat → Nat → Nat
  | 0, i => i
  | fuel + 1, i => if i < lines.size && lines.getD i "" == "" then skipEmpty lines fuel (i + 1) else i

/-- The end of an indented run from `i`: blank, indented and forced lines, and
list items while `listOK`. -/
def indentedEnd (lines : Array String) (forceIndent : Nat) : Nat → Nat → Bool → Nat
  | 0, i, _ => i
  | fuel + 1, i, listOK =>
    if i < lines.size then
      let l := lines.getD i ""
      if l == "" || i < forceIndent || indented l || (listOK && isList l) then
        indentedEnd lines forceIndent fuel (i + 1) (listOK && l != "")
      else i
    else i

/-- The end of an unindented run from `i`: up to a blank or indented line. -/
def plainEnd (lines : Array String) : Nat → Nat → Nat
  | 0, i => i
  | fuel + 1, i =>
    if i < lines.size && lines.getD i "" != "" && !indented (lines.getD i "") then plainEnd lines fuel (i + 1)
    else i

/-- Moves back over list items. -/
def backOverLists (lines : Array String) (start : Nat) : Nat → Nat → Nat
  | 0, e => e
  | fuel + 1, e => if e > start && isList (lines.getD (e - 1) "") then backOverLists lines start fuel (e - 1) else e

/-- Moves the end of a run back over blank lines, not before `start`. -/
def trimEnd (lines : Array String) (start : Nat) : Nat → Nat → Nat
  | 0, e => e
  | f + 1, e => if e > start && lines.getD (e - 1) "" == "" then trimEnd lines start f (e - 1) else e

/-- Splits lines into runs of paragraphs, headings, code and lists. -/
def parseSpans (lines : Array String) : Nat → Nat → Nat → List Span → List Span
  | 0, _, _, acc => acc.reverse
  | fuel + 1, i, forceIndent, acc =>
    let n := lines.size
    let i := skipEmpty lines (n + 1) i
    if i ≥ n then acc.reverse
    else
      let start := i
      let line := lines.getD i ""
      if i < forceIndent || indented line then
        let listOK := isList line && i < forceIndent
        let j := indentedEnd lines forceIndent (n + 1) (i + 1) (listOK && line != "" )
        let stop := trimEnd lines start (j + 1) j
        let stop := if stop < n && (lines.getD stop "").startsWith "\x7d" then stop + 1 else stop
        let kind := if isList line then SpanKind.list else .code
        parseSpans lines fuel stop forceIndent (⟨start, stop, kind⟩ :: acc)
      else
        let j := plainEnd lines (n + 1) (i + 1)
        let (stop, forceIndent, again) :=
          if j < n && lines.getD j "" != "" && !isList (lines.getD j "") then
            let prev := lines.getD (j - 1) ""
            let (stop, fi) :=
              if isList prev then (backOverLists lines start (n + 1) (j - 1), j)
              else if prev.endsWith "\x7b" || prev.endsWith "\\" then (j - 1, j)
              else (j, forceIndent)
            (stop, fi, start == stop && fi > start)
          else (j, forceIndent, false)
        if again then parseSpans lines fuel start forceIndent acc
        else
          let kind :=
            if stop - start == 1 && isHeading line then SpanKind.heading
            else if stop - start == 1 && isOldHeading lines start then .oldHeading
            else .para
          parseSpans lines fuel stop forceIndent (⟨start, stop, kind⟩ :: acc)

end DocText

/-- An item of a list in a doc comment: its number ("" for a bullet) and paragraphs. -/
structure DocItem where
  number : String
  content : List String

/-- A block of a doc comment. -/
inductive DocBlock where
  | paragraph (text : String)
  | heading (text : String)
  | code (text : String)
  | list (items : List DocItem) (forceBlankBefore forceBlankBetween : Bool)

/-- A link definition `[text]: url`. -/
structure LinkDef where
  text : String
  url : String

namespace DocText

/-- Whether a scheme is one links may use. -/
def isScheme (s : String) : Bool :=
  ["file", "ftp", "gopher", "http", "https", "mailto", "nntp"].contains s

/-- The index of the first occurrence of a pattern. -/
def findIndex (s pat : List Char) : Option Nat :=
  let rec go : List Char → Nat → Nat → Option Nat
    | [], _, _ => none
    | r@(_ :: rest), k, fuel =>
      match fuel with
      | 0 => none
      | f + 1 => if pat.isPrefixOf r then some k else go rest (k + 1) f
  if pat.isPrefixOf s then some 0 else go s 0 (s.length + 1)

/-- A link definition line. -/
def parseLink (line : String) : Option LinkDef :=
  let cs := line.toList
  match cs with
  | '[' :: _ =>
    match findIndex cs ['[', ']', ':'].tail with
    | some i =>
      let after := cs.drop (i + 2)
      match after with
      | c :: _ :: _ =>
        if c != ' ' && c != '\t' then none
        else
          let text := String.ofList ((cs.take i).drop 1)
          let url := Text.trimBlankList (cs.drop (i + 3))
          match findIndex url [':', '/', '/'] with
          | some j => if isScheme (String.ofList (url.take j)) then some ⟨text, String.ofList url⟩ else none
          | none => none
      | _ => none
    | none => none
  | _ => none

/-- A paragraph, or the link definitions it consists of. -/
def paragraph (lines : List String) : Option String ⊕ List LinkDef :=
  let defs := lines.filterMap parseLink
  if !lines.isEmpty && defs.length == lines.length then .inr defs
  else .inl (some ("\n".intercalate lines))

/-- A list block from its lines. -/
def listBlock (lines : List String) (forceBlankBefore : Bool) : DocBlock × List LinkDef :=
  let num := ((lines.head?.bind listMarker).map Prod.fst).getD ""
  let flushItem (items : List DocItem) (text : List String) (defs : List LinkDef) :
      List DocItem × List LinkDef :=
    match items with
    | [] => (items, defs)
    | it :: rest =>
      if text.isEmpty then (items, defs)
      else match paragraph text with
        | .inl (some p) => ({ it with content := it.content ++ [p] } :: rest, defs)
        | .inl none => (items, defs)
        | .inr ds => (items, defs ++ ds)
  let (items, text, defs, between) := lines.foldl (fun (items, text, defs, between) line =>
    let (items, text, defs, line) := match listMarker line with
      | some (n, after) =>
        if (n != "") == (num != "") then
          let (items, defs) := flushItem items text defs
          (⟨n, []⟩ :: items, [], defs, after)
        else (items, text, defs, line)
      | none => (items, text, defs, line)
    let t := Text.trimBlank line
    if t.isEmpty then
      let (items, defs) := flushItem items text defs
      (items, [], defs, true)
    else (items, text ++ [t], defs, between)) ([], [], [], false)
  let (items, defs) := flushItem items text defs
  (.list items.reverse forceBlankBefore between, defs)

/-- The blocks and link definitions of a doc comment's text. -/
def parse (text : String) : List DocBlock × List LinkDef :=
  let lines := (unindent (text.splitOn "\n")).toArray
  let spans := parseSpans lines (2 * lines.size + 2) 0 0 []
  let (blocks, defs, _) := spans.foldl (fun (blocks, defs, prevEnd) s =>
    let ls := (lines.extract s.start s.stop).toList
    let first := ls.headD ""
    match s.kind with
    | .list =>
      let (b, ds) := listBlock ls (prevEnd < s.start)
      (blocks ++ [b], defs ++ ds, s.stop)
    | .code =>
      (blocks ++ [.code ("\n".intercalate (unindent ls ++ [""]))], defs, s.stop)
    | .oldHeading => (blocks ++ [.heading (Text.trimBlank first)], defs, s.stop)
    | .heading => (blocks ++ [.heading (Text.trimBlank (first.drop 1).toString)], defs, s.stop)
    | .para =>
      match paragraph ls with
      | .inl (some p) => (blocks ++ [.paragraph p], defs, s.stop)
      | .inl none => (blocks, defs, s.stop)
      | .inr ds => (blocks, defs ++ ds, s.stop)) ([], [], 0)
  (blocks, defs)

/-- The bracketed texts of a paragraph, as link references. -/
def references (s : String) : List String :=
  let (refs, _) := s.toList.foldl (fun (refs, open_) c =>
    let c := if c == '\n' || c == '\t' then ' ' else c
    match open_ with
    | some buf =>
      if c == '[' then (refs, some [])
      else if c == ']' then (String.ofList buf.reverse :: refs, none)
      else (refs, some (c :: buf))
    | none => if c == '[' then (refs, some []) else (refs, none)) ([], none)
  refs

/-- Whether a list has blank lines between its items. -/
def blankBetween (items : List DocItem) (force : Bool) : Bool :=
  force || items.any (·.content.length != 1)

/-- Indents the lines after the first of a text. -/
def indentText (ind s : String) : String := ("\n" ++ ind).intercalate (s.splitOn "\n")

/-- The printed form of a block. -/
def printBlock : DocBlock → String
  | .paragraph t => t ++ "\n"
  | .heading t => "# " ++ t ++ "\n"
  | .code t =>
    let ls := t.splitOn "\n"
    let ls := if ls.getLast? == some "" then ls.dropLast else ls
    String.join (ls.map fun l => (if l.isEmpty then "" else "\t" ++ l) ++ "\n")
  | .list items _ between =>
    let loose := blankBetween items between
    String.join (items.zipIdx.map fun (it, i) =>
      (if i > 0 && loose then "\n" else "") ++ " " ++
        (if it.number.isEmpty then " - " else it.number ++ ". ") ++
        String.join (it.content.zipIdx.map fun (p, k) =>
          (if k > 0 then "\n    " else "") ++ indentText "    " p ++ "\n"))

/-- Whether a block needs a blank line before it. -/
def blankBefore : DocBlock → Bool
  | .list items force between => force || blankBetween items between
  | _ => true

/-- The printed form of a doc comment's text. -/
def print (blocks : List DocBlock) (defs : List LinkDef) : String :=
  let body := String.join (blocks.zipIdx.map fun (b, i) =>
    (if i > 0 && blankBefore b then "\n" else "") ++ printBlock b)
  let texts := blocks.flatMap fun
    | .paragraph t => [t]
    | .list items _ _ => items.flatMap (·.content)
    | _ => []
  let refs := texts.flatMap references
  -- the first definition of a text is the one references use
  let firsts := defs.zipIdx.filter fun (d, i) => (defs.take i).all (·.text != d.text)
  let used := defs.zipIdx.map fun (d, i) =>
    (d, firsts.any (fun (_, k) => k == i) && refs.contains d.text)
  let group (u : Bool) : String :=
    let ds := used.filter (·.2 == u)
    if ds.isEmpty then "" else
      "\n" ++ String.join (ds.map fun (d, _) => "[" ++ d.text ++ "]: " ++ d.url ++ "\n")
  body ++ group true ++ group false

/-- Whether a comment line is a directive such as `//go:generate` (markers removed). -/
def isDirective (c : String) : Bool :=
  if c.startsWith "line " || c.startsWith "extern " || c.startsWith "export " then true
  else
    let cs := c.toList
    match cs.findIdx? (· == ':') with
    | some colon =>
      if colon == 0 || colon + 1 ≥ cs.length then false
      else (cs.take (colon + 2)).zipIdx.all fun (b, i) =>
        i == colon || ('a' ≤ b && b ≤ 'z') || ('0' ≤ b && b ≤ '9')
    | none => false

/-- Whether every line of a block comment's interior after the first starts with a star. -/
def allStars (text : String) : Bool :=
  (text.splitOn "\n").tail.all fun l =>
    match l.toList.dropWhile isIndentChar with
    | [] => true
    | c :: _ => c == '*'

end DocText

/-- A doc comment group in standard form; unchanged when it is not one the
standard form applies to. -/
def formatDocComment (list : List Comment) : List Comment :=
  match list with
  | [] => list
  | first :: _ =>
    let slash := first.slash
    if list.length == 1 && first.text.startsWith "/*" then
      let text := first.text
      if !(text.toList.contains '\n') || DocText.allStars (((text.drop 2).toString.dropEnd 2).toString) then list
      else
        let inner := ((text.drop 2).toString.dropEnd 2).toString
        if inner.isEmpty then list
        else
          let (bs, ds) := DocText.parse inner
          [⟨slash, "/*\n" ++ DocText.print bs ds ++ "*/"⟩]
    else if first.text.startsWith "//" then
      if !(list.all (·.text.startsWith "//")) then list
      else
        let afters := list.map fun c => (c, (c.text.drop 2).toString)
        let directives := (afters.filter fun (_, a) => DocText.isDirective a).map Prod.fst
        let text := String.join ((afters.filter fun (_, a) => !DocText.isDirective a).map fun (_, a) =>
          (if a.startsWith " " then (a.drop 1).toString else a) ++ "\n")
        if text.isEmpty then list
        else
          let (bs, ds) := DocText.parse text
          let out := DocText.print bs ds
          let ls := out.splitOn "\n"
          let ls := if ls.getLast? == some "" then ls.dropLast else ls
          let cs := ls.map fun l =>
            (⟨slash, if l.isEmpty then "//" else if l.startsWith "\t" then "//" ++ l else "// " ++ l⟩ : Comment)
          cs ++ (if directives.isEmpty then [] else ⟨slash, "//"⟩ :: directives)
    else list

end UpnpBind.GoSource
