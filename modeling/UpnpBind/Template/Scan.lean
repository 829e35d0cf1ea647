/-!
# Scanning templates

A template is text with actions between double braces. An opening delimiter
followed by a minus and a blank trims the blanks (spaces, tabs, carriage returns
and line feeds) before it; a blank, a minus and the closing delimiter trim the
blanks after it. Inside an action the scanner yields fields (a dot and a name),
variables (a dollar sign and a name), the dot, identifiers and keywords, quoted
strings, the declaration sign, single characters such as commas and
parentheses, and runs of blanks, each with its byte offset in the template.
-/

namespace UpnpBind.Template

/-- A token of a template. Offsets count bytes from the start of the text. -/
inductive Item where
  | text (s : String)
  | open_ (pos : Nat)
  | close (pos : Nat)
  | space (pos : Nat)
  /-- A field name, without its dot. -/
  | field (pos : Nat) (name : String)
  /-- A variable name, with its dollar sign. -/
  | variable (pos : Nat) (name : String)
  | dot (pos : Nat)
  | ident (pos : Nat) (name : String)
  | str (pos : Nat) (value : String)
  | declare (pos : Nat)
  | char (pos : Nat) (c : Char)
deriving Repr, DecidableEq, Inhabited

/-- The offset of an item; text has none. -/
def Item.pos : Item → Nat
  | .text _ => 0
  | .open_ p | .close p | .space p | .field p _ | .variable p _ | .dot p | .ident p _
  | .str p _ | .declare p | .char p _ => p

/-- Whether a character is blank inside an action or for trimming. -/
def isBlank (c : Char) : Bool := c == ' ' || c == '\t' || c == '\r' || c == '\n'

/-- Whether a character may be part of a name. -/
def isNameChar (c : Char) : Bool := c.isAlphanum || c == '_' || c.toNat ≥ 128

/-- The byte length of a character list. -/
def byteLength (cs : List Char) : Nat := cs.foldl (fun n c => n + c.utf8Size) 0

/-- Drops the blanks at the end of a character list. -/
def trimEnd (cs : List Char) : List Char := (cs.reverse.dropWhile isBlank).reverse

/-- The text before the next opening delimiter and the rest from it on. -/
def splitText : List Char → List Char × List Char
  | [] => ([], [])
  | '\x7b' :: '\x7b' :: rest => ([], '\x7b' :: '\x7b' :: rest)
  | c :: rest => let (t, r) := splitText rest; (c :: t, r)

/-- The characters of a quoted string up to its closing quote, with escapes
resolved, and the raw length consumed including both quotes. -/
def scanQuoted : List Char → List Char → Nat → Option (String × List Char × Nat)
  | acc, '"' :: rest, n => some (String.ofList acc.reverse, rest, n + 1)
  | acc, '\\' :: c :: rest, n =>
    let e := match c with
      | 'n' => '\n' | 't' => '\t' | 'r' => '\r' | c => c
    scanQuoted (e :: acc) rest (n + 1 + c.utf8Size)
  | acc, c :: rest, n => if c == '\n' then none else scanQuoted (c :: acc) rest (n + c.utf8Size)
  | _, [], _ => none

/-- The items of the inside of an action, from byte offset `pos`, up to and
including its closing delimiter; also whether that delimiter trims, and the
rest of the template after it. -/
def scanAction : Nat → Nat → List Char → List Item → Except String (List Item × Bool × List Char × Nat)
  | 0, _, _, _ => .error "template too long"
  | fuel + 1, pos, cs, acc =>
    match cs with
    | [] => .error "unclosed action"
    | '\x7d' :: '\x7d' :: rest => .ok ((.close pos :: acc).reverse, false, rest, pos + 2)
    | c :: rest =>
      if isBlank c && rest.take 3 == ['-', '\x7d', '\x7d'] then
        .ok ((.close (pos + 1) :: acc).reverse, true, rest.drop 3, pos + 4)
      else if isBlank c then
        let run := (c :: rest).takeWhile isBlank
        let after := (c :: rest).drop run.length
        match after with
        | '-' :: '\x7d' :: '\x7d' :: _ =>
          -- the last blank belongs to the trimming close
          scanAction fuel (pos + run.length - 1) ((c :: rest).drop (run.length - 1)) (.space pos :: acc)
        | _ => scanAction fuel (pos + run.length) after (.space pos :: acc)
      else if c == '.' then
        let name := rest.takeWhile isNameChar
        if name.isEmpty then scanAction fuel (pos + 1) rest (.dot pos :: acc)
        else scanAction fuel (pos + 1 + byteLength name) (rest.drop name.length) (.field pos (String.ofList name) :: acc)
      else if c == '$' then
        let name := rest.takeWhile isNameChar
        scanAction fuel (pos + 1 + byteLength name) (rest.drop name.length)
          (.variable pos (String.ofList ('$' :: name)) :: acc)
      else if c == '"' then
        match scanQuoted [] rest 1 with
        | some (s, rest', n) => scanAction fuel (pos + n) rest' (.str pos s :: acc)
        | none => .error "unterminated quoted string"
      else if c == '\x3a' then
        match rest with
        | '=' :: rest' => scanAction fuel (pos + 2) rest' (.declare pos :: acc)
        | _ => .error "expected :="
      else if isNameChar c then
        let name := (c :: rest).takeWhile isNameChar
        scanAction fuel (pos + byteLength name) ((c :: rest).drop name.length) (.ident pos (String.ofList name) :: acc)
      else scanAction fuel (pos + c.utf8Size) rest (.char pos c :: acc)

/-- The items of a template from byte offset `pos`, given whether the previous
action trims the text after it. -/
def scanFrom : Nat → Nat → Bool → List Char → Except String (List Item)
  | 0, _, _, _ => .error "template too long"
  | fuel + 1, pos, trimLeft, cs =>
    let (text, rest) := splitText cs
    let pos' := pos + byteLength text
    let body := if trimLeft then text.dropWhile isBlank else text
    match rest with
    | [] => .ok (if body.isEmpty then [] else [.text (String.ofList body)])
    | _ :: _ :: inner =>
      let (trimRight, inner, start) := match inner with
        | '-' :: c :: more => if isBlank c then (true, more, pos' + 4) else (false, inner, pos' + 2)
        | _ => (false, inner, pos' + 2)
      let body := if trimRight then trimEnd body else body
      let lead := if body.isEmpty then [] else [Item.text (String.ofList body)]
      match scanAction fuel start inner [] with
      | .error e => .error e
      | .ok (items, trims, after, next) =>
        match scanFrom fuel next trims after with
        | .ok more => .ok (lead ++ .open_ pos' :: items ++ more)
        | .error e => .error e
    | [_] => .ok (if body.isEmpty then [] else [.text (String.ofList body)])

/-- The items of a template text. -/
def scan (text : String) : Except String (List Item) :=
  scanFrom (text.length + 1) 0 false text.toList

end UpnpBind.Template
