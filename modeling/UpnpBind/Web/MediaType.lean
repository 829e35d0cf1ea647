import UpnpBind.Text.Blank
import UpnpBind.Text.Case

/-!
# Media types

A `Content-Type` value is a media type, `type/subtype` or a single token, and
parameters `; name=value` after it, each value a token or a quoted string. The
media type is compared in lower case, with the blanks around it trimmed. A
value is refused when the media type is not a token with at most one slash
between tokens, when a parameter is malformed (a lone `;` at the end is
allowed), or when one parameter name is given twice with different values.

Tokens are the printable ASCII characters other than the separators
`()<>@,;:\"/[]?=`. In a quoted string a backslash before a separator stands
for that separator; a line break ends the value as malformed.
-/

namespace UpnpBind.Web

open Text

/-- Whether a character separates tokens. -/
def isSeparator (c : Char) : Bool := "()<>@,;:\\\"/[]?=".contains c

/-- Whether a character may appear in a token. -/
def isTokenChar (c : Char) : Bool := c.toNat > 0x20 && c.toNat < 0x7f && !isSeparator c

/-- The token at the front of a text, and the rest. -/
def takeToken (v : List Char) : List Char × List Char := (v.takeWhile isTokenChar, v.dropWhile isTokenChar)

/-- The characters of a quoted string after its opening quote, up to the
closing one, and the rest after it; none when it is not closed or holds a line break. -/
def takeQuoted : List Char → List Char → Option (List Char × List Char)
  | _, [] => none
  | acc, '"' :: rest => some (acc.reverse, rest)
  | acc, '\\' :: c :: rest => if isSeparator c then takeQuoted (c :: acc) rest else takeQuoted ('\\' :: acc) (c :: rest)
  | acc, c :: rest => if c == '\r' || c == '\n' then none else takeQuoted (c :: acc) rest

/-- A parameter value at the front of a text, and the rest. -/
def takeValue (v : List Char) : List Char × List Char :=
  match v with
  | '"' :: rest =>
    match takeQuoted [] rest with
    | some r => r
    | none => ([], v)
  | _ => takeToken v

/-- Drops leading blanks. -/
def dropBlanks (v : List Char) : List Char := v.dropWhile isBlank

/-- The parameter at the front of a text: its lower-case name, its value and
the rest; none when there is no well-formed parameter there. -/
def takeParameter (v : List Char) : Option (String × String × List Char) :=
  match dropBlanks v with
  | ';' :: rest =>
    let (name, rest) := takeToken (dropBlanks rest)
    if name.isEmpty then none
    else
      match dropBlanks rest with
      | '=' :: rest =>
        let rest := dropBlanks rest
        let (value, rest2) := takeValue rest
        if value.isEmpty && rest2 == rest then none
        else some (lowerText (String.ofList name), String.ofList value, rest2)
      | _ => none
  | _ => none

/-- Whether a lower-case media type is one token or two joined by a slash. -/
def isMediaType (s : String) : Bool :=
  let (main, rest) := takeToken s.toList
  if main.isEmpty then false
  else
    match rest with
    | [] => true
    | '/' :: more =>
      let (sub, rest) := takeToken more
      !sub.isEmpty && rest.isEmpty
    | _ => false

/-- Checks the parameters of a value, each name given once or always with the
same value. -/
def parametersValid : Nat → List (String × String) → List Char → Bool
  | 0, _, _ => false
  | fuel + 1, seen, v =>
    let v := dropBlanks v
    if v.isEmpty then true
    else
      match takeParameter v with
      | none => trimBlankList v == [';']
      | some (name, value, rest) =>
        match seen.lookup name with
        | some old => old == value && parametersValid fuel seen rest
        | none => parametersValid fuel ((name, value) :: seen) rest

/-- The media type of a `Content-Type` value in lower case, or none when the
value is malformed. -/
def mediaType? (v : String) : Option String :=
  let cs := v.toList
  let base := cs.takeWhile (· != ';')
  let media := trimBlank (lowerText (String.ofList base))
  if !isMediaType media then none
  else if parametersValid (cs.length + 1) [] (cs.drop base.length) then some media
  else none

end UpnpBind.Web
