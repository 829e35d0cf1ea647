import UpnpBind.GoSource.ParseState
import UpnpBind.GoSource.DocComment
import UpnpBind.GoSource.Tabwriter

/-!
# The printer's state and its basic moves

The printer lays a syntax tree out again, token by token, following the line
breaks of the source where it can. Layout between tokens is not written at
once: blanks, tab stops, line breaks and indentation changes wait in a buffer
until the next token, so that comments of the source can be placed among
them. A comment that comes before the next token is written first, on its own
line or after the previous token as it was in the source.

The output is marked up for the column aligner (`align`): tab stops end
cells, indentation is written as hard tabs, and literal text is escaped.

A doc comment of a top-level declaration is put in its standard form
(`formatDocComment`) when it is written.
-/

namespace UpnpBind.GoSource

/-- Larger than any position or line. -/
def infinity : Nat := 1 <<< 30

/-- The most line breaks kept between two tokens. -/
def maxNewlines : Nat := 2

/-- A position in the source or the output: byte offset, and line and column
counted from 1; line 0 is no position. -/
structure Position where
  offset : Nat := 0
  line : Nat := 0
  column : Nat := 0
deriving BEq, DecidableEq, Inhabited

/-- Whether a position is known. -/
def Position.valid (p : Position) : Bool := p.line > 0

/-- Layout waiting for the next token. -/
inductive Space where
  | ignore
  | blank
  | vtab
  | newline
  | formfeed
  | indent
  | unindent
deriving DecidableEq, Inhabited

/-- The byte a layout item is written as. -/
def Space.byte : Space → UInt8
  | .blank => 32
  | .vtab => 11
  | .newline => 10
  | .formfeed => 12
  | _ => 0

/-- The printer's state. -/
structure Printer where
  /-- Where the source's lines start, and its size. -/
  lines : Array Nat
  size : Nat
  normalizeNumbers : Bool := false
  output : ByteArray := ByteArray.empty
  indent : Nat := 0
  /-- The depth of composite literals. -/
  level : Nat := 0
  noExtraBlank : Bool := false
  noExtraLinebreak : Bool := false
  /-- Set when the next line break must end all columns. -/
  endAlignment : Bool := false
  /-- Whether a line break here would end a statement. -/
  impliedSemi : Bool := false
  lastTok : Tok := .illegal
  /-- The last opening parenthesis or bracket right before the last token. -/
  prevOpen : Tok := .illegal
  wsbuf : Array Space := #[]
  /-- The position in the source, in the output, and after the last written text. -/
  pos : Position := ⟨0, 1, 1⟩
  out : Position := ⟨0, 1, 1⟩
  last : Position := {}
  /-- A slot waiting for the output line of the next token. -/
  linePtr : Option Nat := none
  recorded : Array Nat := #[]
  comments : Array CommentGroup := #[]
  useNodeComments : Bool := false
  cindex : Nat := 0
  comment : Option CommentGroup := none
  commentOffset : Nat := infinity
  commentNewline : Bool := false
deriving Inhabited

/-- A printing step. -/
abbrev Pr := StateM Printer

namespace Printer

/-- The position of a source position. -/
def posFor (p : Printer) (pos : Pos) : Position :=
  if pos == 0 || pos > p.size + 1 then {} else ⟨pos - 1, lineIn p.lines pos, columnIn p.lines pos⟩

/-- The line of a source position. -/
def lineFor (p : Printer) (pos : Pos) : Nat := (p.posFor pos).line

end Printer

namespace Pr

/-- The line of a source position. -/
def lineFor (pos : Pos) : Pr Nat := do return (← get).lineFor pos

/-- The position of a source position. -/
def posFor (pos : Pos) : Pr Position := do return (← get).posFor pos

/-- Moves the source position to a known position. -/
def setPos (pos : Pos) : Pr Unit := do
  if pos != 0 then modify fun p => { p with pos := p.posFor pos }

/-- A slot for the output line of a later token. -/
def newSlot : Pr Nat := do
  let p ← get
  set { p with recorded := p.recorded.push 0 }
  return p.recorded.size

/-- Records the output line of the next token in a slot. -/
def recordLine (slot : Nat) : Pr Unit := modify fun p => { p with linePtr := some slot }

/-- The output lines since the one recorded in a slot. -/
def linesFrom (slot : Nat) : Pr Int := do
  let p ← get
  return (p.out.line : Int) - (p.recorded.getD slot 0 : Int)

/-- Writes the indentation as hard tabs. -/
def writeIndent : Pr Unit := modify fun p =>
  let n := p.indent
  { p with output := (List.replicate n (9 : UInt8)).foldl ByteArray.push p.output,
           pos := { p.pos with offset := p.pos.offset + n, column := p.pos.column + n },
           out := { p.out with column := p.out.column + n } }

/-- Writes a layout byte `n` times; after a multi-line literal, tab stops
become blanks and the next line break ends the columns. -/
def writeByte (ch : UInt8) (n : Nat) : Pr Unit := do
  let p ← get
  let (ch, endAlignment) :=
    if p.endAlignment then
      if ch == 9 || ch == 11 then ((32 : UInt8), true)
      else if ch == 10 || ch == 12 then (12, false)
      else (ch, true)
    else (ch, false)
  set { p with endAlignment }
  if (← get).out.column == 1 then writeIndent
  modify fun p =>
    let output := (List.replicate n ch).foldl ByteArray.push p.output
    if ch == 10 || ch == 12 then
      { p with output, pos := { offset := p.pos.offset + n, line := p.pos.line + n, column := 1 },
               out := { p.out with line := p.out.line + n, column := 1 } }
    else
      { p with output, pos := { p.pos with offset := p.pos.offset + n, column := p.pos.column + n },
               out := { p.out with column := p.out.column + n } }

/-- Writes a token, literal or comment text at a position; literal text is escaped. -/
def writeString (pos : Position) (s : String) (isLit : Bool) : Pr Unit := do
  if (← get).out.column == 1 then writeIndent
  modify fun p =>
    let p := if pos.valid then { p with pos } else p
    let bytes := s.toUTF8
    let output := if isLit then p.output.push escapeByte else p.output
    let output := output ++ bytes
    let output := if isLit then output.push escapeByte else output
    let breaks := (List.range bytes.size).filter fun i => bytes.get! i == 10 || bytes.get! i == 12
    let len := bytes.size
    let p := match breaks.getLast? with
      | some li =>
        let c := len - li
        { p with pos := { offset := p.pos.offset + len, line := p.pos.line + breaks.length, column := c },
                 out := { p.out with line := p.out.line + breaks.length, column := c },
                 endAlignment := true }
      | none =>
        { p with pos := { p.pos with offset := p.pos.offset + len, column := p.pos.column + len },
                 out := { p.out with column := p.out.column + len } }
    { p with output, last := p.pos }

/-- Writes the first `n` layout items waiting; a line break right before an
unindent is moved after it and made a form feed. -/
def writeWhitespace (n : Nat) : Pr Unit := do
  let rec go : Nat → Nat → Pr Unit
    | 0, _ => pure ()
    | fuel + 1, i => do
      if i < n then
        let p ← get
        match p.wsbuf.getD i .ignore with
        | .ignore => go fuel (i + 1)
        | .indent =>
          set { p with indent := p.indent + 1 }
          go fuel (i + 1)
        | .unindent =>
          set { p with indent := p.indent - 1 }
          go fuel (i + 1)
        | ch@.newline | ch@.formfeed =>
          if i + 1 < n && p.wsbuf.getD (i + 1) .ignore == .unindent then
            set { p with wsbuf := (p.wsbuf.set! i .unindent).set! (i + 1) .formfeed }
            go fuel i
          else
            writeByte ch.byte 1
            go fuel (i + 1)
        | ch =>
          writeByte ch.byte 1
          go fuel (i + 1)
  go (2 * n + 2) 0
  modify fun p => { p with wsbuf := p.wsbuf.extract n p.wsbuf.size }

/-- Whether a line break waits. -/
def containsLinebreak : Pr Bool := do
  return (← get).wsbuf.any fun w => w == .newline || w == .formfeed

/-! ### Comments -/

/-- Whether a comment group has a line comment, a line break, or comments on several lines. -/
def commentsHaveNewline (p : Printer) (list : List Comment) : Bool :=
  match list with
  | [] => false
  | c0 :: _ =>
    let line := p.lineFor c0.slash
    list.zipIdx.any fun (c, i) =>
      (i > 0 && p.lineFor c.slash != line) ||
        (c.text.utf8ByteSize ≥ 2 && (c.text.toList.getD 1 ' ' == '/' || c.text.toList.contains '\n'))

/-- Moves to the next comment group that has comments. -/
def nextComment : Pr Unit := do
  let rec go : Nat → Pr Unit
    | 0 => modify fun p => { p with commentOffset := infinity }
    | fuel + 1 => do
      let p ← get
      if h : p.cindex < p.comments.size then
        let c := p.comments[p.cindex]
        set { p with cindex := p.cindex + 1 }
        match c.list with
        | c0 :: _ =>
          modify fun p => { p with comment := some c, commentOffset := (p.posFor c0.slash).offset,
                                   commentNewline := commentsHaveNewline p c.list }
        | [] => go fuel
      else modify fun p => { p with commentOffset := infinity }
  go ((← get).comments.size + 1)

/-- Whether the next comment comes before a position, and can be written
there without ending a statement. -/
def commentBefore (next : Position) : Pr Bool := do
  let p ← get
  return p.commentOffset < next.offset && (!p.impliedSemi || !p.commentNewline)

/-- The size of the comments before a position. -/
def commentSizeBefore (next : Position) : Pr Nat := do
  let saved ← get
  let rec go : Nat → Nat → Pr Nat
    | 0, size => pure size
    | fuel + 1, size => do
      if ← commentBefore next then
        let g := (← get).comment
        let size := size + ((g.map (·.list)).getD []).foldl (fun n c => n + c.text.utf8ByteSize) 0
        nextComment
        go fuel size
      else pure size
  let size ← go (saved.comments.size + 1) 0
  modify fun p => { p with cindex := saved.cindex, comment := saved.comment,
                           commentOffset := saved.commentOffset, commentNewline := saved.commentNewline }
  return size

/-- The second byte of a comment: `/` for line comments, `*` for block comments. -/
def Comment.kindChar (c : Comment) : Char := c.text.toList.getD 1 ' '

/-- Writes the layout before a comment: a separator when it stays on the line
of the previous token, line breaks (as form feeds) otherwise. -/
def writeCommentPrefix (pos next : Position) (prev : Option Comment) (tok : Tok) : Pr Unit := do
  let p ← get
  if p.output.size == 0 then return
  let prevIsLine := match prev with
    | some c => Comment.kindChar c == '/'
    | none => false
  if pos.line == p.last.line && !prevIsLine then
    let mut hasSep := false
    if prev.isNone then
      let mut j := 0
      let mut buf := p.wsbuf
      for i in [0:buf.size] do
        match buf[i]! with
        | .blank => buf := buf.set! i .ignore
        | .vtab => hasSep := true
        | .indent => pure ()
        | _ =>
          j := i
          break
      modify fun p => { p with wsbuf := buf }
      writeWhitespace j
    if !hasSep then
      writeByte (if pos.line == next.line then 32 else 9) 1
  else
    let mut droppedLinebreak := false
    let mut j := 0
    let mut buf := p.wsbuf
    for i in [0:buf.size] do
      match buf[i]! with
      | .blank | .vtab => buf := buf.set! i .ignore
      | .indent => pure ()
      | .unindent =>
        if i + 1 < buf.size && buf[i + 1]! == .unindent then pure ()
        else if tok != Tok.rbrace && pos.column == next.column then pure ()
        else
          j := i
          break
      | .newline | .formfeed =>
        buf := buf.set! i .ignore
        droppedLinebreak := prev.isNone
        j := i
        break
      | _ =>
        j := i
        break
    modify fun p => { p with wsbuf := buf }
    writeWhitespace j
    let p ← get
    let mut n : Nat := 0
    if pos.valid && p.last.valid then n := pos.line - p.last.line
    if p.indent == 0 && droppedLinebreak then n := n + 1
    if n == 0 && prevIsLine then n := 1
    if n > 0 then writeByte 12 (min n maxNewlines)

/-- Drops the blanks and tabs at the end of a text. -/
def trimRight (s : String) : String :=
  String.ofList (s.toList.reverse.dropWhile Text.isBlank).reverse

/-- Whether a text has no character above a blank. -/
def isBlankText (s : List Char) : Bool := s.all (·.toNat ≤ 32)

/-- The common prefix of two lines, made of blanks, control characters and stars. -/
def starPrefix (a b : List Char) : List Char :=
  match a, b with
  | x :: xs, y :: ys => if x == y && (x.toNat ≤ 32 || x == '*') then x :: starPrefix xs ys else []
  | _, _ => []

/-- Removes the common indentation of the lines of a block comment after its first. -/
def stripCommonPrefix (lines : List (List Char)) : List (List Char) :=
  match lines with
  | [] | [_] => lines
  | (first : List Char) :: _ =>
    let n := lines.length
    let inner := (lines.drop 1).take (n - 2)
    let inner := if n > 2 then inner.map fun l => if isBlankText l then [] else l else inner
    let lines := if n > 2 then first :: inner ++ [lines.getLast!] else lines
    let nonBlank := inner.filter fun l => !l.isEmpty
    let pre := match nonBlank with
      | l :: ls => ls.foldl starPrefix l
      | [] => let l := lines.getLast!; starPrefix l l
    let (pre, lineOfStars) :=
      match pre.findIdx? (· == '*') with
      | some k =>
        let p := pre.take k
        ((if p.getLast? == some ' ' then p.dropLast else p), true)
      | none =>
        if isBlankText (first.drop 2) then
          let rev := pre.reverse
          let blanks := (rev.takeWhile (· == ' ')).length
          let k := min blanks 3
          let i := pre.length - k
          let i := if i == pre.length && i > 0 && pre.getD (i - 1) ' ' == '\t' then i - 1 else i
          (pre.take i, false)
        else
          let ws : List Char := (first.drop 2).takeWhile (fun c : Char => c.toNat ≤ 32)
          let suffix := if ws.head? == some '\t' then ws else [' ', ' '] ++ ws
          let pre := if suffix.length ≤ pre.length && pre.drop (pre.length - suffix.length) == suffix
            then pre.take (pre.length - suffix.length) else pre
          (pre, false)
    let last := lines.getLast!
    let before := match DocText.findIndex last ['*', '/'] with
      | some k => last.take k
      | none => last
    let (lines, pre) :=
      if isBlankText before then
        (lines.dropLast ++ [pre ++ (if lineOfStars then [' ', '*', '/'] else ['*', '/'])], pre)
      else (lines, starPrefix pre last)
    lines.zipIdx.map fun ((l : List Char), (i : Nat)) => if i > 0 && !l.isEmpty then l.drop pre.length else l

/-- Writes a comment; a block comment line by line, its lines separated by form feeds. -/
def writeComment (c : Comment) : Pr Unit := do
  let pos ← posFor c.slash
  let savedIndent := (← get).indent
  if c.text.startsWith "//line " && (!pos.valid || pos.column == 1) then
    modify fun p => { p with indent := 0 }
  if Comment.kindChar c == '/' then
    writeString pos (trimRight c.text) true
  else
    let lines := (c.text.splitOn "\n").map String.toList
    let ind := (← get).indent
    let lines := if pos.valid && pos.column == 1 && ind > 0 then
        lines.headD [] :: (lines.drop 1).map fun l => [' ', ' ', ' '] ++ l
      else lines
    let lines := stripCommonPrefix lines
    let mut pos := pos
    for (line, i) in lines.zipIdx do
      if i > 0 then
        writeByte 12 1
        pos := (← get).pos
      if !line.isEmpty then writeString pos (trimRight (String.ofList line)) true
  if c.text.startsWith "//line " && (!pos.valid || pos.column == 1) then
    modify fun p => { p with indent := savedIndent }

/-- Writes the layout after comments, keeping one line break if one is needed;
also whether a line break was written and whether a form feed was dropped. -/
def writeCommentSuffix (needsLinebreak : Bool) : Pr (Bool × Bool) := do
  let p ← get
  let (buf, needs, wrote, dropped) := p.wsbuf.foldl (fun (buf, needs, wrote, dropped) ch =>
    match ch with
    | .blank | .vtab => (buf.push .ignore, needs, wrote, dropped)
    | .newline | .formfeed =>
      if needs then (buf.push ch, false, true, dropped)
      else (buf.push .ignore, needs, wrote, dropped || ch == .formfeed)
    | _ => (buf.push ch, needs, wrote, dropped)) (#[], needsLinebreak, false, false)
  set { p with wsbuf := buf }
  writeWhitespace buf.size
  if needs then
    writeByte 10 1
    return (true, dropped)
  return (wrote, dropped)

/-- Writes the comments that come before the next token. -/
def intersperseComments (next : Position) (tok : Tok) : Pr (Bool × Bool) := do
  let rec go : Nat → Option Comment → Pr (Option Comment)
    | 0, last => pure last
    | fuel + 1, last => do
      if !(← commentBefore next) then return last
      let p ← get
      let group := p.comment.getD ⟨[]⟩
      let isDoc := p.lastTok != .kw "import" && (p.posFor group.pos).column == 1 &&
        p.posFor (group.end_ + 1) == next
      let list := if isDoc then formatDocComment group.list else group.list
      let mut last := last
      for c in list do
        writeCommentPrefix (← posFor c.slash) next last tok
        writeComment c
        last := some c
      if isDoc && !group.list.isEmpty then
        last := group.list.getLast?
        let e ← posFor group.end_
        modify fun p => { p with pos := e, last := e }
      nextComment
      go fuel last
  let last ← go ((← get).comments.size + 1) none
  match last with
  | none => return (false, false)
  | some last =>
    let p ← get
    let mut needsLinebreak := false
    if !p.noExtraBlank && Comment.kindChar last == '*' && p.lineFor last.slash == next.line &&
        tok != Tok.comma && (tok != Tok.rparen || p.prevOpen == Tok.lparen) &&
        (tok != Tok.rbrack || p.prevOpen == Tok.lbrack) then
      if (← containsLinebreak) && !p.noExtraLinebreak && p.level == 0 then needsLinebreak := true
      else writeByte 32 1
    if Comment.kindChar last == '/' || tok == .eof || (tok == Tok.rbrace && !p.noExtraLinebreak) then
      needsLinebreak := true
    writeCommentSuffix needsLinebreak

/-- Writes the comments before the next token, or the waiting layout. -/
def flush (next : Position) (tok : Tok) : Pr (Bool × Bool) := do
  if ← commentBefore next then intersperseComments next tok
  else
    writeWhitespace (← get).wsbuf.size
    return (false, false)

/-- Makes a node's comment group the next comment, when printing without the
file's comments. -/
def setComment (g : Option CommentGroup) : Pr Unit := do
  match g with
  | none => pure ()
  | some g =>
    let p ← get
    if !p.useNodeComments then return
    if !p.comments.isEmpty && p.cindex < p.comments.size then
      discard <| flush (← posFor g.pos) .illegal
    modify fun p => { p with comments := #[g], cindex := 0 }
    if (← get).commentOffset == infinity then nextComment

/-! ### Printing tokens -/

/-- Notes the opening token right before the current one. -/
def notePrevOpen : Pr Unit := modify fun p =>
  if p.lastTok == .illegal then p
  else if p.lastTok == Tok.lparen || p.lastTok == Tok.lbrack then { p with prevOpen := p.lastTok }
  else { p with prevOpen := .illegal }

/-- Adds layout to the waiting buffer. -/
def space (w : Space) : Pr Unit := do
  notePrevOpen
  if w == .ignore then return
  if (← get).wsbuf.size == 16 then writeWhitespace 16
  modify fun p =>
    let p := { p with wsbuf := p.wsbuf.push w, lastTok := .illegal }
    if w == .newline || w == .formfeed then { p with impliedSemi := false } else p

/-- Adds several layout items. -/
def spaces (ws : List Space) : Pr Unit := ws.forM space

/-- Toggles the modes that stop an extra blank or line break after a block comment. -/
def toggleMode (blank linebreak : Bool) : Pr Unit := do
  notePrevOpen
  modify fun p => { p with noExtraBlank := p.noExtraBlank != blank,
                           noExtraLinebreak := p.noExtraLinebreak != linebreak }

/-- Writes the text of the next token after the comments and layout before it,
keeping the source's blank lines where no statement would end. -/
def emit (data : String) (isLit implied : Bool) : Pr Unit := do
  let next := (← get).pos
  let (wroteNewline, droppedFF) ← flush next (← get).lastTok
  let p ← get
  let mut implied := implied
  if !p.impliedSemi then
    let n : Int := min ((next.line : Int) - (p.pos.line : Int)) (maxNewlines : Int)
    let n := if wroteNewline && n == (maxNewlines : Int) then n - 1 else n
    if n > 0 then
      writeByte (if droppedFF then 12 else 10) n.toNat
      implied := false
  modify fun p => match p.linePtr with
    | some slot => { p with recorded := p.recorded.set! slot p.out.line, linePtr := none }
    | none => p
  writeString next data isLit
  modify fun p => { p with impliedSemi := implied }

/-- The text of an operator or keyword token. -/
def tokText : Tok → String
  | .op s => s
  | .kw s => s
  | t => t.name

/-- Whether a token followed by a text starting with `c` would read as another token. -/
def mayCombine (prev : Tok) (c : Char) : Bool :=
  match prev with
  | .int => c == '.'
  | .op "+" => c == '+'
  | .op "-" => c == '-'
  | .op "/" => c == '*'
  | .op "<" => c == '-' || c == '<'
  | .op "&" => c == '&' || c == '^'
  | _ => false

/-- Prints an operator or keyword. -/
def token (t : Tok) : Pr Unit := do
  notePrevOpen
  let s := tokText t
  if mayCombine (← get).lastTok (s.toList.headD ' ') then
    modify fun p => { p with wsbuf := #[.blank] }
  let implied := match t with
    | .kw "break" | .kw "continue" | .kw "fallthrough" | .kw "return"
    | .op "++" | .op "--" | .op ")" | .op "]" | .op "\x7d" => true
    | _ => false
  modify fun p => { p with lastTok := t }
  emit s false implied

/-- Prints tokens. -/
def tokens (ts : List Tok) : Pr Unit := ts.forM token

/-- Prints an identifier. -/
def ident (i : Ident) : Pr Unit := do
  notePrevOpen
  modify fun p => { p with lastTok := .ident }
  emit i.name false true

/-- Prints a literal. -/
def literal (l : BasicLit) : Pr Unit := do
  notePrevOpen
  modify fun p => { p with lastTok := l.kind }
  emit l.value true true

/-- Prints a text standing for a malformed node. -/
def text (s : String) : Pr Unit := do
  notePrevOpen
  modify fun p => { p with lastTok := .string }
  emit s true true

/-- Prints line breaks, at least `min` and as many as the source has up to
`line` (at most two); `ws` comes first, and with `newSection` the first break
is a form feed. Returns the number of breaks, a form feed counting two. -/
def linebreak (line min : Nat) (ws : Space) (newSection : Bool) : Pr Nat := do
  let p ← get
  let n : Int := max (Min.min ((line : Int) - (p.pos.line : Int)) (maxNewlines : Int)) (min : Int)
  if n > 0 then
    space ws
    let mut n := n.toNat
    let mut nbreaks := 0
    if newSection then
      space .formfeed
      n := n - 1
      nbreaks := 2
    nbreaks := nbreaks + n
    for _ in [0:n] do space .newline
    return nbreaks
  return 0

end Pr

end UpnpBind.GoSource
