import UpnpBind.Text.Numeral

/-!
# Scalar tags and values

A plain scalar without a tag gets one from its text: null (`""`, `~`,
`null`), booleans (`true`, `false` in three spellings each), integers
(decimal, `0x`, `0o`, `0b`, octal with a leading zero; underscores dropped),
floats (decimal numerals, `.inf`, `.nan`), timestamps (`2006-1-2`, optionally
with a time), and strings for everything else. YAML 1.1 words such as `yes`
and `on` are strings.

A scalar with an explicit tag must read as that tag: `!!int abc` is the error
"cannot decode !!str `abc` as a !!int". An integer may be tagged `!!float`.
Tags other than the standard scalar ones are kept and the text taken as it is.
-/

namespace UpnpBind.Yaml

open Text

/-- The prefix of the standard tags. -/
def longTagPrefix : String := "tag:yaml.org,2002:"

/-- A tag in short form: the standard prefix written `!!`. -/
def shortTag (tag : String) : String :=
  if tag.startsWith longTagPrefix then "!!" ++ String.ofList (tag.toList.drop longTagPrefix.length)
  else tag

/-- The standard tags, short form. -/
def nullTag : String := "!!null"
def boolTag : String := "!!bool"
def strTag : String := "!!str"
def intTag : String := "!!int"
def floatTag : String := "!!float"
def timestampTag : String := "!!timestamp"
def seqTag : String := "!!seq"
def mapTag : String := "!!map"
def binaryTag : String := "!!binary"
def mergeTag : String := "!!merge"

/-- What a scalar stands for once its tag is known. -/
inductive ScalarValue where
  | null
  | bool (b : Bool)
  /-- An integer of the signed 64-bit range. -/
  | int (i : Int)
  /-- An integer above the signed and within the unsigned 64-bit range. -/
  | uint (n : Nat)
  | float (f : Binary64)
  | timestamp
  /-- Text: strings, and the text of scalars with other tags. -/
  | str (s : String)
deriving Repr, DecidableEq, Inhabited

/-- The tags whose scalars are resolved from their text. -/
def resolvable (tag : String) : Bool :=
  tag == "" || tag == strTag || tag == boolTag || tag == intTag || tag == floatTag ||
    tag == nullTag || tag == timestampTag

/-- The words with fixed values. -/
def wordValue (s : String) : Option (String × ScalarValue) :=
  if s == "true" || s == "True" || s == "TRUE" then some (boolTag, .bool true)
  else if s == "false" || s == "False" || s == "FALSE" then some (boolTag, .bool false)
  else if s == "" || s == "~" || s == "null" || s == "Null" || s == "NULL" then some (nullTag, .null)
  else if s == ".nan" || s == ".NaN" || s == ".NAN" then some (floatTag, .float .nan)
  else if s == ".inf" || s == ".Inf" || s == ".INF" || s == "+.inf" || s == "+.Inf" || s == "+.INF" then
    some (floatTag, .float (.infinity false))
  else if s == "-.inf" || s == "-.Inf" || s == "-.INF" then some (floatTag, .float (.infinity true))
  else none

/-- What the first character of a scalar suggests it might be: a sign (`S`),
a digit (`D`), a fixed word (`M`), a float starting with a point (`.`), or
only a string. -/
def hintOf (s : String) : Option Char :=
  match s.toList with
  | [] => some 'N'
  | c :: _ =>
    if c == '+' || c == '-' then some 'S'
    else if '0' ≤ c && c ≤ '9' then some 'D'
    else if "yYnNtTfFoO~".contains c then some 'M'
    else if c == '.' then some '.'
    else none

/-- Whether a text is a decimal float in the form `[-+]?(.d+|d+(.d*)?)([eE][-+]?d+)?`. -/
def isYamlFloat (s : String) : Bool :=
  let isD (c : Char) := '0' ≤ c && c ≤ '9'
  let cs := match s.toList with
    | '+' :: r | '-' :: r => r
    | r => r
  let (mant, rest) := match cs.findIdx? (fun c => c == 'e' || c == 'E') with
    | some i => (cs.take i, some (cs.drop (i + 1)))
    | none => (cs, none)
  let mantOk := match mant with
    | '.' :: ds => !ds.isEmpty && ds.all isD
    | _ =>
      let whole := mant.takeWhile isD
      let after := mant.drop whole.length
      !whole.isEmpty && (after.isEmpty || (after.head? == some '.' && (after.drop 1).all isD))
  let expOk := match rest with
    | none => true
    | some e =>
      let e := match e with
        | '+' :: r | '-' :: r => r
        | r => r
      !e.isEmpty && e.all isD
  mantOk && expOk

/-- The number of days of a month. -/
def daysIn (month year : Nat) : Nat :=
  if month == 2 then (if year % 4 == 0 && (year % 100 != 0 || year % 400 == 0) then 29 else 28)
  else if month == 4 || month == 6 || month == 9 || month == 11 then 30
  else 31

/-- A number of one or two digits, and what follows it. -/
def shortNumber : List Char → Option (Nat × List Char)
  | a :: b :: rest =>
    if '0' ≤ a && a ≤ '9' then
      if '0' ≤ b && b ≤ '9' then some ((a.toNat - 48) * 10 + (b.toNat - 48), rest)
      else some (a.toNat - 48, b :: rest)
    else none
  | [a] => if '0' ≤ a && a ≤ '9' then some (a.toNat - 48, []) else none
  | [] => none

/-- A time of day `15:4:5`, with an optional fraction of a second, and what follows it. -/
def timeOfDay (cs : List Char) : Option (List Char) := do
  let (h, cs) ← shortNumber cs
  let cs ← match cs with | ':' :: r => some r | _ => none
  let (m, cs) ← shortNumber cs
  let cs ← match cs with | ':' :: r => some r | _ => none
  let (s, cs) ← shortNumber cs
  if h ≥ 24 || m ≥ 60 || s ≥ 60 then none
  let cs := match cs with
    | p :: d :: rest =>
      if (p == '.' || p == ',') && '0' ≤ d && d ≤ '9' then rest.dropWhile (fun c => '0' ≤ c && c ≤ '9')
      else cs
    | _ => cs
  return cs

/-- A zone `Z` or `±hh:mm`, ending the text. -/
def zoneEnds : List Char → Bool
  | ['Z'] => true
  | [sign, h1, h2, ':', m1, m2] =>
    let digits := [h1, h2, m1, m2].all (fun c => '0' ≤ c && c ≤ '9')
    digits && (sign == '+' || sign == '-') &&
      (h1.toNat - 48) * 10 + (h2.toNat - 48) ≤ 24 && (m1.toNat - 48) * 10 + (m2.toNat - 48) ≤ 60
  | _ => false

/-- Whether a text is a timestamp: a date `2006-1-2`, alone, or followed by
`T` or `t`, a time and a zone, or by spaces and a time. -/
def isTimestamp (s : String) : Bool :=
  let cs := s.toList
  let year := cs.takeWhile (fun c => '0' ≤ c && c ≤ '9')
  if year.length != 4 || (cs.drop 4).head? != some '-' then false
  else
    let y := year.foldl (fun n c => n * 10 + (c.toNat - 48)) 0
    let date : Option (List Char) := do
      let (mo, r) ← shortNumber (cs.drop 5)
      let r ← match r with | '-' :: r => some r | _ => none
      let (d, r) ← shortNumber r
      if mo == 0 || mo > 12 || d == 0 || d > daysIn mo y then none
      return r
    match date with
    | none => false
    | some [] => true
    | some (t :: rest) =>
      if t == 'T' || t == 't' then
        match timeOfDay rest with
        | some z => zoneEnds z
        | none => false
      else if t == ' ' then
        match timeOfDay (rest.dropWhile (· == ' ')) with
        | some [] => true
        | _ => false
      else false

/-- The tag and value of a plain text, or of a text with a resolvable tag,
before the tag is checked. -/
def resolveText (tag text : String) : String × ScalarValue :=
  match hintOf text with
  | none => (strTag, .str text)
  | some hint =>
    if tag == strTag || tag == binaryTag then (strTag, .str text)
    else match wordValue text with
    | some r => r
    | none =>
      if hint == '.' then
        match readFloat text with
        | some f => (floatTag, .float f)
        | none => (strTag, .str text)
      else if hint == 'D' || hint == 'S' then
        if (tag == "" || tag == timestampTag) && isTimestamp text then (timestampTag, .timestamp)
        else
          let plain := String.ofList (text.toList.filter (· != '_'))
          match readPrefixedSigned plain with
          | some i => (intTag, .int i)
          | none =>
            match readPrefixedUnsigned plain with
            | some n => (intTag, .uint n)
            | none =>
              match (if isYamlFloat plain then readFloat plain else none) with
              | some f => (floatTag, .float f)
              | none => (strTag, .str text)
      else (strTag, .str text)

/-- The tag and value of a scalar with a tag (empty when none was given); the
error when the text does not read as the tag given. -/
def resolve (tag text : String) : Except String (String × ScalarValue) :=
  let tag := shortTag tag
  if !resolvable tag then .ok (tag, .str text)
  else
    let (rtag, value) := resolveText tag text
    if tag == "" || tag == rtag || tag == strTag || tag == binaryTag then .ok (rtag, value)
    else if tag == floatTag && rtag == intTag then
      match value with
      | .int i => .ok (floatTag, .float (Binary64.ofInt i))
      | _ => .error ("cannot decode " ++ rtag ++ " `" ++ text ++ "` as a " ++ tag)
    else .error ("cannot decode " ++ rtag ++ " `" ++ text ++ "` as a " ++ tag)

end UpnpBind.Yaml
