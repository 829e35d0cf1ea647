/-!
# Numerals

Integers written with an optional base prefix (`0x`, `0o`, `0b`, or a leading
`0` for octal) and decimal floating point numerals, as configuration files
write them.

A floating point numeral stands for the double-precision number nearest to its
exact value, ties going to the even mantissa. A numeral beyond the largest
finite double is out of range; one below the smallest positive double reads
as zero. Only the conversion of a double to a 64-bit integer is needed here:
it drops the fraction, and a double outside the 64-bit range converts to the
smallest 64-bit integer, as the hardware conversion does.
-/

namespace UpnpBind.Text

/-- The value of a digit or letter as a digit of a base up to 36. -/
def digitOf (c : Char) : Option Nat :=
  if '0' ≤ c && c ≤ '9' then some (c.toNat - '0'.toNat)
  else if 'a' ≤ c && c ≤ 'z' then some (c.toNat - 'a'.toNat + 10)
  else if 'A' ≤ c && c ≤ 'Z' then some (c.toNat - 'A'.toNat + 10)
  else none

/-- The value of digits in a base, when every character is a digit of it. -/
def digitsValue (base : Nat) : List Char → Nat → Option Nat
  | [], n => some n
  | c :: cs, n =>
    match digitOf c with
    | some d => if d < base then digitsValue base cs (n * base + d) else none
    | none => none

/-- Reads an unsigned 64-bit integer with an optional base prefix; underscores
between digits are allowed. -/
def readPrefixedUnsigned (s : String) : Option Nat :=
  let cs := s.toList
  if cs.isEmpty then none
  else
    let (base, digits) := match cs with
      | '0' :: b :: rest@(_ :: _) =>
        if b == 'b' || b == 'B' then (2, rest)
        else if b == 'o' || b == 'O' then (8, rest)
        else if b == 'x' || b == 'X' then (16, rest)
        else (8, b :: rest)
      | '0' :: rest => (8, rest)
      | _ => (10, cs)
    match digitsValue base (digits.filter (· != '_')) 0 with
    | some n => if n < Nat.pow 2 64 then some n else none
    | none => none

/-- Reads a signed 64-bit integer with an optional sign and base prefix. -/
def readPrefixedSigned (s : String) : Option Int :=
  let (neg, rest) := match s.toList with
    | '+' :: r => (false, r)
    | '-' :: r => (true, r)
    | r => (false, r)
  match readPrefixedUnsigned (String.ofList rest) with
  | some u =>
    if !neg && u ≥ Nat.pow 2 63 then none
    else if neg && u > Nat.pow 2 63 then none
    else some (if neg then -(u : Int) else u)
  | none => none

/-- A double-precision number: not a number, an infinity, or `mantissa * 2 ^ exponent`
with its sign. -/
inductive Binary64 where
  | nan
  | infinity (negative : Bool)
  | finite (negative : Bool) (mantissa : Nat) (exponent : Int)
deriving Repr, DecidableEq, Inhabited

namespace Binary64

/-- The mantissa `n / d` rounded to the nearest integer, ties to even. -/
def roundHalfEven (n d : Nat) : Nat :=
  let q := n / d
  let r := n % d
  if 2 * r > d || (2 * r == d && q % 2 == 1) then q + 1 else q

/-- The number `num / den * 2 ^ e` as a fraction of naturals. -/
def scaled (num den : Nat) (e : Int) : Nat × Nat :=
  if e ≥ 0 then (num * Nat.pow 2 e.toNat, den) else (num, den * Nat.pow 2 (-e).toNat)

/-- The double nearest to `num / den`, or none when that is beyond the largest double. -/
def ofFraction (negative : Bool) (num den : Nat) : Option Binary64 :=
  if num == 0 || den == 0 then some (.finite negative 0 0)
  else
    -- The exponent that puts the quotient between 2 ^ 52 and 2 ^ 53.
    let e0 : Int := (num.log2 : Int) - den.log2 - 52
    let (n, d) := scaled num den (-e0)
    let e1 : Int := if n < d * Nat.pow 2 52 then e0 - 1 else e0
    let e := max e1 (-1074)
    let (n, d) := scaled num den (-e)
    let m := roundHalfEven n d
    let (m, e) := if m == Nat.pow 2 53 then (Nat.pow 2 52, e + 1) else (m, e)
    if e > 971 then none else some (.finite negative m e)

/-- The double nearest to an integer. -/
def ofInt (i : Int) : Binary64 :=
  (ofFraction (i < 0) i.natAbs 1).getD (.infinity (i < 0))

/-- The conversion to a 64-bit integer of a double at most the largest 64-bit
integer (as a double, 2 ^ 63); none for larger ones and for not a number. The
fraction is dropped; 2 ^ 63 itself and numbers below the 64-bit range give the
smallest 64-bit integer. -/
def toInt64 : Binary64 → Option Int
  | .nan => none
  | .infinity false => none
  | .infinity true => some (-(Nat.pow 2 63))
  | .finite negative m e =>
    let whole : Nat := if e ≥ 0 then m * Nat.pow 2 e.toNat else m / Nat.pow 2 (-e).toNat
    if negative then
      if whole ≥ Nat.pow 2 63 then some (-(Nat.pow 2 63)) else some (-(whole : Int))
    else
      let exact := e ≥ 0 || m % Nat.pow 2 (-e).toNat == 0
      if whole > Nat.pow 2 63 || (whole == Nat.pow 2 63 && !exact) then none
      else if whole == Nat.pow 2 63 then some (-(Nat.pow 2 63))
      else some whole

end Binary64

/-- The parts of a decimal numeral: sign, digits with the point removed, the
power of ten to scale them by. -/
structure DecimalNumeral where
  negative : Bool
  digits : List Nat
  exponent : Int
deriving Repr, DecidableEq

/-- Whether the underscores of a numeral stand only between digits, a base
prefix counting as a digit. -/
def underscoresBetweenDigits (s : String) : Bool :=
  let cs := match s.toList with
    | '+' :: r | '-' :: r => r
    | r => r
  let (hex, start, cs) := match cs with
    | '0' :: b :: rest =>
      if b == 'b' || b == 'B' || b == 'o' || b == 'O' || b == 'x' || b == 'X' then
        (b == 'x' || b == 'X', '0', rest)
      else (false, '^', cs)
    | _ => (false, '^', cs)
  let step (saw : Option Char) (c : Char) : Option Char :=
    match saw with
    | none => none
    | some w =>
      if ('0' ≤ c && c ≤ '9') || (hex && (('a' ≤ c && c ≤ 'f') || ('A' ≤ c && c ≤ 'F'))) then some '0'
      else if c == '_' then (if w == '0' then some '_' else none)
      else if w == '_' then none
      else some '!'
  match cs.foldl step (some start) with
  | some w => w != '_'
  | none => false

/-- Reads a decimal numeral: an optional sign, digits with at most one point
and at least one digit, and an optional exponent; underscores may stand
between digits. The whole text must be the numeral. -/
def readDecimalNumeral (s : String) : Option DecimalNumeral :=
  let cs := s.toList
  let (negative, cs) := match cs with
    | '+' :: r => (false, r)
    | '-' :: r => (true, r)
    | r => (false, r)
  let rec mantissa : List Char → List Nat → Option Nat → Nat → Bool → (List Nat × Option Nat × Bool × List Char)
    | [], ds, dot, _, saw => (ds, dot, saw, [])
    | c :: rest, ds, dot, n, saw =>
      if c == '_' then mantissa rest ds dot n saw
      else if c == '.' then
        if dot.isSome then (ds, dot, saw, c :: rest) else mantissa rest ds (some n) n saw
      else if '0' ≤ c && c ≤ '9' then mantissa rest (ds ++ [c.toNat - '0'.toNat]) dot (n + 1) true
      else (ds, dot, saw, c :: rest)
  let (digits, dot, sawDigits, rest) := mantissa cs [] none 0 false
  if !sawDigits then none
  else
    let pointAt : Int := (dot.getD digits.length : Int)
    let expPart : Option Int := match rest with
      | [] => some 0
      | e :: more =>
        if e == 'e' || e == 'E' then
          let (sign, more) := match more with
            | '+' :: r => (1, r)
            | '-' :: r => (-1, r)
            | r => (1, r)
          match more with
          | d :: _ =>
            if '0' ≤ d && d ≤ '9' && more.all (fun c => ('0' ≤ c && c ≤ '9') || c == '_') then
              let v := (more.filter (· != '_')).foldl
                (fun acc c => if acc < 10000 then acc * 10 + (c.toNat - '0'.toNat) else acc) 0
              some (sign * (v : Int))
            else none
          | [] => none
        else none
    match expPart with
    | none => none
    | some e =>
      if s.contains '_' && !underscoresBetweenDigits s then none
      else some { negative, digits, exponent := pointAt + e - digits.length }

/-- The double a decimal numeral stands for; none when it is out of range. -/
def DecimalNumeral.toBinary64 (d : DecimalNumeral) : Option Binary64 :=
  let digits := d.digits.dropWhile (· == 0)
  let value := digits.foldl (fun acc x => acc * 10 + x) 0
  if value == 0 then some (.finite d.negative 0 0)
  else
    let lead := (digits.length : Int) + d.exponent
    if lead > 310 then none
    else if lead < -330 then some (.finite d.negative 0 0)
    else if d.exponent ≥ 0 then Binary64.ofFraction d.negative (value * Nat.pow 10 d.exponent.toNat) 1
    else Binary64.ofFraction d.negative value (Nat.pow 10 (-d.exponent).toNat)

/-- Reads a decimal floating point numeral. -/
def readFloat (s : String) : Option Binary64 :=
  (readDecimalNumeral s).bind DecimalNumeral.toBinary64

end UpnpBind.Text
