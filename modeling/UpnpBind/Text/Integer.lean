import UpnpBind.Text.Decimal

/-!
# Integers in a base

Integers of a given bit size written in a base from 2 to 36, or in base 0,
where the text itself picks the base by its prefix: `0b` for binary, `0o` or
a bare leading `0` for octal, `0x` for hexadecimal, else decimal. Letters of
either case are digits past 9. Only in base 0 may underscores appear, and then
only between digits or between the prefix and a digit.

Digits are read from the left, and a value that leaves the range of the bit
size is out of range at once, even if a bad character follows; a misplaced
underscore is noticed only after all the digits have been read.
-/

namespace UpnpBind.Text

/-- The value of a character as a digit: 0 to 9, then letters from 10. -/
def digitValue (c : Char) : Option Nat :=
  if '0' ≤ c && c ≤ '9' then some (c.toNat - '0'.toNat)
  else if 'a' ≤ c && c ≤ 'z' then some (c.toNat - 'a'.toNat + 10)
  else if 'A' ≤ c && c ≤ 'Z' then some (c.toNat - 'A'.toNat + 10)
  else none

/-- Reads digits of a base onto the value `n` read so far, skipping
underscores when they are allowed; also whether any underscore was seen. -/
def readBaseDigits (base maxValue : Nat) (allowUnderscores : Bool) (n : Nat) (seen : Bool) :
    List Char → Except NumberError (Nat × Bool)
  | [] => .ok (n, seen)
  | c :: cs =>
    if c == '_' && allowUnderscores then readBaseDigits base maxValue allowUnderscores n true cs
    else
      match digitValue c with
      | none => .error .invalidSyntax
      | some d =>
        if d ≥ base then .error .invalidSyntax
        else if n * base + d > maxValue then .error .outOfRange
        else readBaseDigits base maxValue allowUnderscores (n * base + d) seen cs

/-- What the last character seen was, for checking underscores. -/
inductive Seen where
  | start
  | digit
  | underscore
  | other
deriving DecidableEq

/-- Checks the characters after a number's prefix: each underscore between
digits (the prefix counting as one). -/
def underscoresPlaced (hex : Bool) : Seen → List Char → Bool
  | saw, [] => saw != .underscore
  | saw, c :: cs =>
    let lower := Char.ofNat (c.toNat ||| 0x20)
    if ('0' ≤ c && c ≤ '9') || (hex && 'a' ≤ lower && lower ≤ 'f') then underscoresPlaced hex .digit cs
    else if c == '_' then saw == .digit && underscoresPlaced hex .underscore cs
    else saw != .underscore && underscoresPlaced hex .other cs

/-- Whether the underscores of a number are where they may be. -/
def underscoresOk (s : List Char) : Bool :=
  let s := match s with
    | '+' :: r => r
    | '-' :: r => r
    | r => r
  match s with
  | '0' :: b :: rest =>
    let lb := Char.ofNat (b.toNat ||| 0x20)
    if lb == 'b' || lb == 'o' || lb == 'x' then underscoresPlaced (lb == 'x') .digit rest
    else underscoresPlaced false .start s
  | _ => underscoresPlaced false .start s

/-- Reads an unsigned integer of a bit size in a base, 0 meaning the prefix decides. -/
def parseUnsigned (s : String) (base bits : Nat) : Except NumberError Nat :=
  let cs := s.toList
  if cs.isEmpty then .error .invalidSyntax
  else
    let (base', digits) :=
      if base != 0 then (base, cs)
      else
        match cs with
        | '0' :: b :: rest@(_ :: _) =>
          let lb := Char.ofNat (b.toNat ||| 0x20)
          if lb == 'b' then (2, rest)
          else if lb == 'o' then (8, rest)
          else if lb == 'x' then (16, rest)
          else (8, b :: rest)
        | '0' :: rest => (8, rest)
        | _ => (10, cs)
    match readBaseDigits base' (Nat.pow 2 bits - 1) (base == 0) 0 false digits with
    | .error e => .error e
    | .ok (n, underscores) =>
      if underscores && !underscoresOk cs then .error .invalidSyntax else .ok n

/-- Reads a signed integer of a bit size in a base, 0 meaning the prefix decides. -/
def parseSigned (s : String) (base bits : Nat) : Except NumberError Int :=
  if s.isEmpty then .error .invalidSyntax
  else
    let (neg, rest) := match s.toList with
      | '+' :: r => (false, r)
      | '-' :: r => (true, r)
      | r => (false, r)
    match parseUnsigned (String.ofList rest) base bits with
    | .error .invalidSyntax => .error .invalidSyntax
    | .error .outOfRange => .error .outOfRange
    | .ok u =>
      let cutoff := Nat.pow 2 (bits - 1)
      if !neg && u ≥ cutoff then .error .outOfRange
      else if neg && u > cutoff then .error .outOfRange
      else .ok (if neg then -(u : Int) else u)

/-- The text of a failed conversion of `s` by the named function. -/
def NumberError.messageOf (e : NumberError) (function s : String) : String :=
  "strconv." ++ function ++ ": parsing " ++ quote s ++ ": " ++ e.words

/-- Reads a boolean: `1`, `t`, `T`, `TRUE`, `true`, `True` and the like for false. -/
def parseBool (s : String) : Option Bool :=
  if ["1", "t", "T", "TRUE", "true", "True"].contains s then some true
  else if ["0", "f", "F", "FALSE", "false", "False"].contains s then some false
  else none

end UpnpBind.Text
