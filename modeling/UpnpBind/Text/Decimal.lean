import UpnpBind.Text.Quoted

/-!
# Decimal integers

A decimal integer is an optional sign and one or more ASCII digits, with a
value in the signed 64-bit range. Digits are read from the left, and a value
that leaves the range is out of range at once, even if a bad character follows.
-/

namespace UpnpBind.Text

/-- Why a text is no decimal integer. -/
inductive NumberError where
  | invalidSyntax
  | outOfRange
deriving Repr, DecidableEq

/-- The words of a number error. -/
def NumberError.words : NumberError → String
  | .invalidSyntax => "invalid syntax"
  | .outOfRange => "value out of range"

/-- The largest unsigned 64-bit value. -/
def maxUnsigned : Nat := Nat.pow 2 64 - 1

/-- Reads unsigned decimal digits onto the value `n` read so far. -/
def readDigits (n : Nat) : List Char → Except NumberError Nat
  | [] => .ok n
  | c :: cs =>
    if '0' ≤ c && c ≤ '9' then
      if n ≥ maxUnsigned / 10 + 1 then .error .outOfRange
      else
        let m := n * 10 + (c.toNat - '0'.toNat)
        if m > maxUnsigned then .error .outOfRange else readDigits m cs
    else .error .invalidSyntax

/-- Reads an unsigned decimal number of one or more digits. -/
def readUnsigned (cs : List Char) : Except NumberError Nat :=
  if cs.isEmpty then .error .invalidSyntax else readDigits 0 cs

/-- Reads a signed 64-bit decimal integer. -/
def readInt64 (s : String) : Except NumberError Int :=
  let (neg, digits) := match s.toList with
    | '+' :: r => (false, r)
    | '-' :: r => (true, r)
    | r => (false, r)
  match readUnsigned digits with
  | .error e => .error e
  | .ok u =>
    if !neg && u ≥ Nat.pow 2 63 then .error .outOfRange
    else if neg && u > Nat.pow 2 63 then .error .outOfRange
    else .ok (if neg then -(u : Int) else u)

/-- The text of a failed integer conversion of `s`. -/
def NumberError.message (e : NumberError) (s : String) : String :=
  "strconv.Atoi: parsing " ++ quote s ++ ": " ++ e.words

end UpnpBind.Text
