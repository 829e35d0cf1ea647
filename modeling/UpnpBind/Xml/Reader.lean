import UpnpBind.Xml.Node
import UpnpBind.Xml.Charset
import UpnpBind.Text.Letter
import UpnpBind.Text.Case
import UpnpBind.Text.Quoted
import UpnpBind.Text.Edit

/-!
# Reading documents

The reader turns a text into a `Document` under the strict rules of XML 1.0
with namespaces: end tags must match their start tags, every entity must be
one of the five predefined ones or a character reference, attribute values
must be quoted, and a qualified element name must have a declared namespace.
Text before, between and after top-level elements is kept, a document type
declaration is skipped, and a declaration that names another character set
decodes what follows it in that set. Line breaks `\r\n` and `\r` read as
`\n`. A failure carries the line the reader had reached.

Each loop of the reader consumes at least one character per step; the loops
take a step bound computed from the input length.
-/

namespace UpnpBind.Xml

open UpnpBind.Text

/-- Why a text is not a readable document. -/
inductive ReadError where
  /-- Malformed markup, found on the given line. -/
  | malformed (line : Nat) (message : String)
  /-- A declaration of an XML version other than 1.0. -/
  | unsupportedVersion (version : String)
  /-- A declaration of a character set the reader does not know. -/
  | unsupportedCharset (label : String)
  /-- An element qualified by a namespace that no attribute declared. -/
  | undeclaredNamespace (space : String)
deriving Repr, DecidableEq

/-- The text of a read error. -/
def ReadError.message : ReadError → String
  | .malformed line m => "XML syntax error on line " ++ toString line ++ ": " ++ m
  | .unsupportedVersion v => "xml: unsupported version " ++ quote v ++ "; only version 1.0 is supported"
  | .unsupportedCharset l => "xml: opening charset " ++ quote l ++ ": unsupported charset: " ++ quote l
  | .undeclaredNamespace s => "xmlquery: invalid XML document, namespace " ++ s ++ " is missing"

/-- A position in the input: the characters left and the current line. -/
structure Cursor where
  rest : List Char
  line : Nat
deriving Repr, Inhabited

namespace Cursor

/-- The next character and the cursor after it. -/
def next? (c : Cursor) : Option (Char × Cursor) :=
  match c.rest with
  | [] => none
  | x :: xs => some (x, ⟨xs, if x == '\n' then c.line + 1 else c.line⟩)

/-- A syntax failure on the cursor's line. -/
def fail {α : Type} (c : Cursor) (m : String) : Except ReadError α := .error (.malformed c.line m)

/-- The next character, where the input must not end. -/
def must (c : Cursor) : Except ReadError (Char × Cursor) :=
  match c.next? with
  | some p => .ok p
  | none => c.fail "unexpected EOF"

/-- Skips spaces, tabs and line breaks. -/
def skipSpaceFrom : List Char → Nat → Cursor
  | [], line => ⟨[], line⟩
  | x :: xs, line =>
    if x == ' ' || x == '\r' || x == '\t' then skipSpaceFrom xs line
    else if x == '\n' then skipSpaceFrom xs (line + 1)
    else ⟨x :: xs, line⟩

/-- The cursor after the spaces, tabs and line breaks at its position. -/
def skipSpace (c : Cursor) : Cursor := skipSpaceFrom c.rest c.line

/-- The cursor after `n` characters that hold no line break. -/
def skip (c : Cursor) (n : Nat) : Cursor := ⟨c.rest.drop n, c.line⟩

end Cursor

/-- A name as written: its prefix (empty when unqualified) and local part. -/
structure RawName where
  space : String
  localName : String
deriving Repr, DecidableEq, Inhabited

/-- An attribute as written. -/
structure RawAttr where
  name : RawName
  value : String
deriving Repr, DecidableEq, Inhabited

/-- A unit of markup or text. -/
inductive Token where
  | start (name : RawName) (attrs : List RawAttr) (selfClosing : Bool)
  | stop (name : RawName)
  | chars (data : String)
  | comment (data : String)
  | instruction (target data : String)
  | declaration
deriving Repr, Inhabited

/-! ## Names -/

/-- ASCII characters that may occur in a name. -/
def isNameAscii (c : Char) : Bool :=
  ('A' ≤ c && c ≤ 'Z') || ('a' ≤ c && c ≤ 'z') || ('0' ≤ c && c ≤ '9') ||
    c == '_' || c == ':' || c == '.' || c == '-'

/-- Characters the name scanner takes: ASCII name characters and any other
non-ASCII character, which the name check then judges. -/
def isNameScanned (c : Char) : Bool := c.toNat ≥ 128 || isNameAscii c

/-- Characters that may start a name: letters, '_' and ':'. -/
def isNameStart (c : Char) : Bool :=
  if c.toNat < 128 then ('A' ≤ c && c ≤ 'Z') || ('a' ≤ c && c ≤ 'z') || c == '_' || c == ':'
  else isLetter c

/-- Characters that may continue a name: name starts, digits, '.', '-', marks
and the middle dot. -/
def isNameRest (c : Char) : Bool :=
  if c.toNat < 128 then isNameAscii c
  else isLetter c || isDecimalDigit c || isMark c || c.toNat == 0xB7

/-- Whether a scanned text is a well-formed name. -/
def isXmlName : List Char → Bool
  | [] => false
  | c :: cs => isNameStart c && cs.all isNameRest

/-- Scans a name; `none` when the next character cannot be part of one. The
input must not end inside the name. -/
def scanName (c : Cursor) : Except ReadError (Option (List Char × Cursor)) :=
  match c.rest with
  | [] => c.fail "unexpected EOF"
  | x :: _ =>
    if x.toNat < 128 && !isNameAscii x then .ok none
    else
      let name := c.rest.takeWhile isNameScanned
      let after := c.skip name.length
      if after.rest.isEmpty then after.fail "unexpected EOF" else .ok (some (name, after))

/-- Scans a name and checks it. -/
def scanCheckedName (c : Cursor) : Except ReadError (Option (String × Cursor)) := do
  match ← scanName c with
  | none => pure none
  | some (n, c') =>
    if isXmlName n then pure (some (String.ofList n, c'))
    else c'.fail ("invalid XML name: " ++ String.ofList n)

/-- Scans a possibly qualified name: one colon with text on both sides splits
prefix and local part; a name with two colons is refused. -/
def scanQualified (c : Cursor) : Except ReadError (Option (RawName × Cursor)) := do
  match ← scanCheckedName c with
  | none => pure none
  | some (s, c') =>
    match Text.split s ':' with
    | [sp, l] => pure (some (if sp.isEmpty || l.isEmpty then ⟨"", s⟩ else ⟨sp, l⟩, c'))
    | [_] => pure (some (⟨"", s⟩, c'))
    | _ => pure none

/-! ## Character data -/

/-- The five predefined entities. -/
def predefinedEntity? : String → Option Char
  | "lt" => some '<'
  | "gt" => some '>'
  | "amp" => some '&'
  | "apos" => some '\''
  | "quot" => some '"'
  | _ => none

/-- The value of a digit in base 10 or 16. -/
def digitValue (hex : Bool) (c : Char) : Option Nat :=
  if '0' ≤ c && c ≤ '9' then some (c.toNat - '0'.toNat)
  else if hex && 'a' ≤ c && c ≤ 'f' then some (c.toNat - 'a'.toNat + 10)
  else if hex && 'A' ≤ c && c ≤ 'F' then some (c.toNat - 'A'.toNat + 10)
  else none

/-- The number written by a run of digits, if it fits in 64 bits. -/
def digitsValue (hex : Bool) (ds : List Char) : Option Nat :=
  if ds.isEmpty then none
  else
    let n := ds.foldl (fun acc d => acc * (if hex then 16 else 10) + (digitValue hex d).getD 0) 0
    if n < Nat.pow 2 64 then some n else none

/-- The character of a reference to a code point: surrogates read as the
replacement character. -/
def referencedChar (n : Nat) : Char :=
  if 0xD800 ≤ n && n < 0xE000 then Char.ofNat 0xFFFD else Char.ofNat n

/-- What a reference after '&' reads as. -/
inductive Reference where
  /-- It stands for `text` and takes `taken` characters after the '&'. -/
  | resolved (text : Char) (taken : Nat)
  /-- It is no known reference; `written` is the reference as written. -/
  | unknown (written : String)

/-- Reads the reference after an '&', at cursor `c` just after it. -/
def readReference (c : Cursor) : Except ReadError Reference := do
  match c.rest with
  | [] => c.fail "unexpected EOF"
  | '#' :: r1 =>
    let (hex, r2, written) := match r1 with
      | 'x' :: r2 => (true, r2, "&#x")
      | _ => (false, r1, "&#")
    if r1.isEmpty || (hex && r2.isEmpty) then (c.skip (c.rest.length)).fail "unexpected EOF"
    else
      let ds := r2.takeWhile (fun d => (digitValue hex d).isSome)
      match r2.drop ds.length with
      | [] => (c.skip c.rest.length).fail "unexpected EOF"
      | ';' :: _ =>
        match digitsValue hex ds with
        | some n =>
          if n ≤ 0x10FFFF then
            pure (.resolved (referencedChar n) ((if hex then 2 else 1) + ds.length + 1))
          else pure (.unknown (written ++ String.ofList ds ++ ";"))
        | none => pure (.unknown (written ++ String.ofList ds ++ ";"))
      | _ => pure (.unknown (written ++ String.ofList ds))
  | _ =>
    let (name, after) ← match ← scanName c with
      | some (n, c') => pure (n, c')
      | none => pure ([], c)
    match after.rest with
    | [] => after.fail "unexpected EOF"
    | ';' :: _ =>
      match (if isXmlName name then predefinedEntity? (String.ofList name) else none) with
      | some ch => pure (.resolved ch (name.length + 1))
      | none => pure (.unknown ("&" ++ String.ofList name ++ ";"))
    | _ => pure (.unknown ("&" ++ String.ofList name))

/-- Whether a character may occur in a document. -/
def isDocumentChar (c : Char) : Bool :=
  let n := c.toNat
  n == 0x09 || n == 0x0A || n == 0x0D || (0x20 ≤ n && n ≤ 0xD7FF) || (0xE000 ≤ n && n ≤ 0xFFFD) ||
    (0x10000 ≤ n && n ≤ 0x10FFFF)

/-- The hexadecimal form `U+XXXX` of a code point. -/
def codePointText (n : Nat) : String :=
  let ds := (Nat.toDigits 16 n).map Char.toUpper
  "U+" ++ String.ofList (List.replicate (4 - ds.length) '0' ++ ds)

/-- The text read so far, checked for characters a document may not hold. -/
def finishText (acc : List Char) (c : Cursor) : Except ReadError (List Char × Cursor) :=
  let data := acc.reverse
  match data.find? (fun x => !isDocumentChar x) with
  | some bad => c.fail ("illegal character code " ++ codePointText bad.toNat)
  | none => .ok (data, c)

/-- Reads character data: plain text up to the next '<' (`quote` none, `cdata`
false), an attribute value up to its closing quote, or a CDATA section up to
its "]]>". `b0` and `b1` are the two characters read before. -/
def scanText (quote : Option Char) (cdata : Bool) :
    Nat → Cursor → List Char → Char → Char → Except ReadError (List Char × Cursor)
  | 0, c, acc, _, _ => finishText acc c
  | fuel + 1, c, acc, b0, b1 =>
    match c.next? with
    | none => if cdata then c.fail "unexpected EOF in CDATA section" else finishText acc c
    | some (b, c') =>
      if quote.isNone && b0 == ']' && b1 == ']' && b == '>' then
        if cdata then finishText (acc.drop 2) c'
        else c'.fail "unescaped ]]> not in CDATA section"
      else if b == '<' && !cdata then
        if quote.isSome then c'.fail "unescaped < inside quoted string"
        else finishText acc c
      else if quote == some b then finishText acc c'
      else if b == '&' && !cdata then
        match readReference c' with
        | .error e => .error e
        | .ok (.resolved ch n) => scanText quote cdata fuel (c'.skip n) (ch :: acc) (Char.ofNat 0) (Char.ofNat 0)
        | .ok (.unknown w) =>
          c'.fail ("invalid character entity " ++ w ++ (if w.endsWith ";" then "" else " (no semicolon)"))
      else
        let acc' := if b == '\r' then '\n' :: acc else if b1 == '\r' && b == '\n' then acc else b :: acc
        scanText quote cdata fuel c' acc' b1 b

/-! ## Comments, instructions and declarations -/

/-- Reads a comment body up to "-->"; a "--" must be followed by '>'. -/
def scanComment : Nat → Cursor → List Char → Char → Char → Except ReadError (String × Cursor)
  | 0, c, _, _, _ => c.fail "unexpected EOF"
  | fuel + 1, c, acc, b0, b1 => do
    let (b, c') ← c.must
    if b0 == '-' && b1 == '-' then
      if b != '>' then c'.fail "invalid sequence \"--\" not allowed in comments"
      else pure (String.ofList (acc.drop 2).reverse, c')
    else scanComment fuel c' (b :: acc) b1 b

/-- Reads an instruction body up to "?>". -/
def scanInstruction : Nat → Cursor → List Char → Char → Except ReadError (List Char × Cursor)
  | 0, c, _, _ => c.fail "unexpected EOF"
  | fuel + 1, c, acc, b0 => do
    let (b, c') ← c.must
    if b0 == '?' && b == '>' then pure ((acc.drop 1).reverse, c')
    else scanInstruction fuel c' (b :: acc) b

/-- Skips a comment inside a declaration, up to "-->". -/
def skipDeclarationComment : Nat → Cursor → Char → Char → Except ReadError Cursor
  | 0, c, _, _ => c.fail "unexpected EOF"
  | fuel + 1, c, b0, b1 => do
    let (b, c') ← c.must
    if b0 == '-' && b1 == '-' && b == '>' then pure c'
    else skipDeclarationComment fuel c' b1 b

/-- Skips a declaration such as a document type up to its closing '>': quoted
text and comments do not count, and inner '<' and '>' nest. `pending` is a
character already read and still to be judged. -/
def scanDeclaration : Nat → Cursor → Option Char → Option Char → Int → Except ReadError Cursor
  | 0, c, _, _, _ => c.fail "unexpected EOF"
  | fuel + 1, c, none, inQuote, depth => do
    let (b, c') ← c.must
    if inQuote.isNone && b == '>' && depth == 0 then pure c'
    else scanDeclaration fuel c' (some b) inQuote depth
  | fuel + 1, c, some b, inQuote, depth => do
    if inQuote == some b then scanDeclaration fuel c none none depth
    else if inQuote.isSome then scanDeclaration fuel c none inQuote depth
    else if b == '\'' || b == '"' then scanDeclaration fuel c none (some b) depth
    else if b == '>' then scanDeclaration fuel c none none (depth - 1)
    else if b == '<' then
      let (b1, c1) ← c.must
      if b1 != '!' then scanDeclaration fuel c1 (some b1) none (depth + 1)
      else
        let (b2, c2) ← c1.must
        if b2 != '-' then scanDeclaration fuel c2 (some b2) none (depth + 1)
        else
          let (b3, c3) ← c2.must
          if b3 != '-' then scanDeclaration fuel c3 (some b3) none (depth + 1)
          else
            let c4 ← skipDeclarationComment fuel c3 (Char.ofNat 0) (Char.ofNat 0)
            scanDeclaration fuel c4 none none depth
    else scanDeclaration fuel c none none depth

/-- The text after the first occurrence of `key`, if it occurs. -/
def afterKey (key : List Char) : List Char → Option (List Char)
  | [] => none
  | x :: xs => if key.isPrefixOf (x :: xs) then some ((x :: xs).drop key.length) else afterKey key xs

/-- The quoted value of `param=` in the body of a declaration, or "". -/
def declarationParam (param : String) : Nat → List Char → String
  | 0, _ => ""
  | fuel + 1, s =>
    match afterKey (param ++ "=").toList s with
    | none => ""
    | some [] => ""
    | some (q :: rest) =>
      if q == '\'' || q == '"' then
        if rest.contains q then String.ofList (rest.takeWhile (· != q)) else ""
      else declarationParam param fuel rest

/-! ## Tokens -/

/-- Reads the attributes of a start tag up to its '>' or "/>". -/
def scanAttributes : Nat → Cursor → List RawAttr → Except ReadError (List RawAttr × Bool × Cursor)
  | 0, c, _ => c.fail "unexpected EOF"
  | fuel + 1, c, acc => do
    let c := c.skipSpace
    let (b, c1) ← c.must
    if b == '/' then
      let (b2, c2) ← c1.must
      if b2 != '>' then c2.fail "expected /> in element" else pure (acc.reverse, true, c2)
    else if b == '>' then pure (acc.reverse, false, c1)
    else
      match ← scanQualified c with
      | none => c.fail "expected attribute name in element"
      | some (name, c2) =>
        let (e, c3) ← c2.skipSpace.must
        if e != '=' then c3.fail "attribute name without = in element"
        else
          let (q, c4) ← c3.skipSpace.must
          if q == '"' || q == '\'' then
            let (v, c5) ← scanText (some q) false fuel c4 [] (Char.ofNat 0) (Char.ofNat 0)
            scanAttributes fuel c5 (⟨name, String.ofList v⟩ :: acc)
          else c4.fail "unquoted or missing attribute value in element"

/-- Applies a declaration of version and character set, read from the body of
an "xml" instruction, to the input that follows it. -/
def applyDeclaration (body : List Char) (c : Cursor) : Except ReadError Cursor := do
  let ver := declarationParam "version" (body.length + 1) body
  if !ver.isEmpty && ver != "1.0" then throw (.unsupportedVersion ver)
  let enc := declarationParam "encoding" (body.length + 1) body
  if enc.isEmpty || equalFold enc "utf-8" then pure c
  else match Charset.ofLabel? enc with
    | none => throw (.unsupportedCharset enc)
    | some cs => pure ⟨cs.decode c.rest, c.line⟩

/-- Reads the characters that must follow "<![" to open a CDATA section. -/
def openCdata : List Char → Cursor → Except ReadError Cursor
  | [], c => pure c
  | x :: xs, c => do
    let (y, c') ← c.must
    if y != x then c'.fail "invalid <![ sequence" else openCdata xs c'

/-- Reads the next token; `none` at the end of the input. -/
def nextToken (fuel : Nat) (c : Cursor) : Except ReadError (Option (Token × Cursor)) := do
  match c.next? with
  | none => pure none
  | some ('<', c1) =>
    let (b, c2) ← c1.must
    if b == '/' then
      match ← scanQualified c2 with
      | none => c2.fail "expected element name after </"
      | some (name, c3) =>
        let (e, c4) ← c3.skipSpace.must
        if e != '>' then c4.fail ("invalid characters between </" ++ name.localName ++ " and >")
        else pure (some (.stop name, c4))
    else if b == '?' then
      match ← scanCheckedName c2 with
      | none => c2.fail "expected target name after <?"
      | some (target, c3) =>
        let (body, c4) ← scanInstruction fuel c3.skipSpace [] (Char.ofNat 0)
        let c5 ← if target == "xml" then applyDeclaration body c4 else pure c4
        pure (some (.instruction target (String.ofList body), c5))
    else if b == '!' then
      let (b3, c3) ← c2.must
      if b3 == '-' then
        let (b4, c4) ← c3.must
        if b4 != '-' then c4.fail "invalid sequence <!- not part of <!--"
        else
          let (body, c5) ← scanComment fuel c4 [] (Char.ofNat 0) (Char.ofNat 0)
          pure (some (.comment body, c5))
      else if b3 == '[' then
        let c4 ← openCdata "CDATA[".toList c3
        let (data, c5) ← scanText none true fuel c4 [] (Char.ofNat 0) (Char.ofNat 0)
        pure (some (.chars (String.ofList data), c5))
      else
        let c4 ← scanDeclaration fuel c3 none none 0
        pure (some (.declaration, c4))
    else
      match ← scanQualified c1 with
      | none => c1.fail "expected element name after <"
      | some (name, c3) =>
        let (attrs, selfClosing, c4) ← scanAttributes fuel c3 []
        pure (some (.start name attrs selfClosing, c4))
  | some _ =>
    let (data, c') ← scanText none false fuel c [] (Char.ofNat 0) (Char.ofNat 0)
    pure (some (.chars (String.ofList data), c'))

/-! ## Trees -/

/-- An element whose end tag is still to come. -/
structure Frame where
  raw : RawName
  qualifier : String
  localName : String
  space : String
  attrs : List Attribute
  /-- The children read so far, last first. -/
  children : List Node
  /-- The namespace bindings in force before the element. -/
  outerScope : List (String × String)

/-- The state of tree building. -/
structure Builder where
  /-- The top-level nodes read so far, last first. -/
  top : List Node := []
  openElements : List Frame := []
  /-- Namespace bindings from prefix to namespace; the first binding of a prefix wins. -/
  scope : List (String × String) := []
  /-- The prefix each namespace was last declared with; never narrowed. -/
  prefixes : List (String × String) := [("http://www.w3.org/XML/1998/namespace", "xml")]

/-- Sets a key of an association list, replacing an earlier value. -/
def setKey (m : List (String × String)) (k v : String) : List (String × String) :=
  if m.any (·.1 == k) then m.map (fun e => if e.1 == k then (k, v) else e) else m ++ [(k, v)]

/-- The value of a key of an association list. -/
def getKey? (m : List (String × String)) (k : String) : Option String :=
  (m.find? (·.1 == k)).map (·.2)

namespace Builder

/-- Adds a finished node to the open element, or to the top level. -/
def add (b : Builder) (n : Node) : Builder :=
  match b.openElements with
  | [] => { b with top := n :: b.top }
  | f :: fs => { b with openElements := { f with children := n :: f.children } :: fs }

/-- The namespace of a name under the bindings `scope`. Unqualified attribute
names have none; the "xml" prefix has its fixed namespace. -/
def resolveSpace (scope : List (String × String)) (n : RawName) (isElement : Bool) : String :=
  if n.space == "xmlns" then n.space
  else if n.space.isEmpty && !isElement then n.space
  else if n.space == "xml" then "http://www.w3.org/XML/1998/namespace"
  else if n.space.isEmpty && n.localName == "xmlns" then n.space
  else (getKey? scope n.space).getD n.space

/-- Closes the open element against an end tag. -/
def close (b : Builder) (name : RawName) (c : Cursor) : Except ReadError Builder :=
  match b.openElements with
  | [] => c.fail ("unexpected end element </" ++ name.localName ++ ">")
  | f :: fs =>
    if f.raw.localName != name.localName then
      c.fail ("element <" ++ f.raw.localName ++ "> closed by </" ++ name.localName ++ ">")
    else if f.raw.space != name.space then
      c.fail ("element <" ++ f.raw.localName ++ "> in space " ++ f.raw.space ++ " closed by </" ++
        name.localName ++ "> in space " ++ (if name.space.isEmpty then "\"\"" else name.space))
    else
      let n := Node.element f.qualifier f.localName f.space f.attrs f.children.reverse
      .ok ({ b with openElements := fs, scope := f.outerScope }.add n)

/-- Opens an element: its namespace declarations come into force first. -/
def openElement (b : Builder) (name : RawName) (attrs : List RawAttr) : Except ReadError Builder := do
  let scope := attrs.foldl (fun sc a =>
      if a.name.space == "xmlns" then (a.name.localName, a.value) :: sc
      else if a.name.space.isEmpty && a.name.localName == "xmlns" then ("", a.value) :: sc
      else sc) b.scope
  let space := resolveSpace scope name true
  let resolved := attrs.map fun a => (resolveSpace scope a.name false, a.name.localName, a.value)
  let prefixes := resolved.foldl (fun m (sp, l, v) =>
      if l == "xmlns" then setKey m v "" else if sp == "xmlns" then setKey m v l else m) b.prefixes
  if !space.isEmpty && (getKey? prefixes space).isNone then throw (.undeclaredNamespace space)
  let frame : Frame := {
    raw := name, qualifier := (getKey? prefixes space).getD "", localName := name.localName,
    space, attrs := resolved.map (fun (sp, l, v) => ⟨(getKey? prefixes sp).getD sp, l, v⟩),
    children := [], outerScope := b.scope }
  pure { b with openElements := frame :: b.openElements, scope, prefixes }

/-- Takes one token into the tree. -/
def feed (b : Builder) (c : Cursor) : Token → Except ReadError Builder
  | .start name attrs selfClosing => do
    let b ← b.openElement name attrs
    if selfClosing then b.close name c else pure b
  | .stop name => b.close name c
  | .chars d => .ok (b.add (.text d))
  | .comment d => .ok (b.add (.comment d))
  | .instruction t d => .ok (b.add (.instruction t d))
  | .declaration => .ok b

end Builder

/-- Reads tokens into the tree until the input ends. -/
def build : Nat → Builder → Cursor → Except ReadError Document
  | 0, _, c => c.fail "unexpected EOF"
  | fuel + 1, b, c => do
    match ← nextToken fuel c with
    | none =>
      if b.openElements.isEmpty then pure ⟨b.top.reverse⟩ else c.fail "unexpected EOF"
    | some (t, c') => build fuel (← b.feed c' t) c'

/-- Reads a document. -/
def Document.read (s : String) : Except ReadError Document :=
  build (16 * s.length + 64) {} ⟨s.toList, 1⟩

end UpnpBind.Xml
