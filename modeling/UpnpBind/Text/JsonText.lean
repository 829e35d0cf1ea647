/-!
# JSON string literals

A text as a JSON string literal in the safe-for-markup form: the quote and
the backslash are escaped, the control characters take their short escapes
where JSON has one and `\u00XX` otherwise, and `<`, `>`, `&`, U+2028 and
U+2029 are written as `\u` escapes.
-/

namespace UpnpBind.Text

/-- Four lower-case hexadecimal digits of a code point below 0x10000. -/
def hex4 (n : Nat) : List Char :=
  let ds := Nat.toDigits 16 n
  List.replicate (4 - ds.length) '0' ++ ds

/-- The JSON literal form of one character, without quotes. -/
def jsonEscape (c : Char) : List Char :=
  if c = '"' then ['\\', '"']
  else if c = '\\' then ['\\', '\\']
  else if c = '\n' then ['\\', 'n']
  else if c = '\r' then ['\\', 'r']
  else if c = '\t' then ['\\', 't']
  else if c.toNat = 8 then ['\\', 'b']
  else if c.toNat = 12 then ['\\', 'f']
  else if c.toNat < 32 || c = '<' || c = '>' || c = '&' || c.toNat = 0x2028 || c.toNat = 0x2029 then
    '\\' :: 'u' :: hex4 c.toNat
  else [c]

/-- A text as a JSON string literal. -/
def jsonString (s : String) : String :=
  String.ofList ('"' :: s.toList.flatMap jsonEscape ++ ['"'])

end UpnpBind.Text
