/-!
# Durations

A duration is a signed number of nanoseconds in the 64-bit range. Its text is
a sequence of decimal numbers, each with an optional fraction and a unit (`ns`,
`us`, `µs`, `μs`, `ms`, `s`, `m`, `h`), after an optional sign, such as `1h30m`
or `-1.5s`; `0` alone is zero. A fraction is scaled by the unit in double
precision and truncated, so that fractions of hours are exact to the
nanosecond.

Durations print with the largest units first: hours, minutes and seconds with a
fraction for one second or more (`1h2m3.5s`), else milliseconds, microseconds
or nanoseconds (`1.5ms`, `2µs`, `7ns`), and `0s` for zero. Fractions drop their
trailing zeros.
-/

namespace UpnpBind.Text

/-- The nanoseconds of a unit's name. -/
def durationUnit (u : String) : Option Nat :=
  if u == "ns" then some 1
  else if u == "us" || u == "µs" || u == "μs" then some 1000
  else if u == "ms" then some 1000000
  else if u == "s" then some 1000000000
  else if u == "m" then some 60000000000
  else if u == "h" then some 3600000000000
  else none

/-- The leading digits of a text as a number, and the rest; none on overflow of 2 ^ 63. -/
def leadingInt (cs : List Char) : Option (Nat × List Char) :=
  let digits := cs.takeWhile (fun c => '0' ≤ c && c ≤ '9')
  let rest := cs.drop digits.length
  let step (acc : Option Nat) (c : Char) : Option Nat :=
    acc.bind fun x =>
      if x > Nat.pow 2 63 / 10 then none
      else
        let y := x * 10 + (c.toNat - '0'.toNat)
        if y > Nat.pow 2 63 then none else some y
  (digits.foldl step (some 0)).map (·, rest)

/-- The leading digits of a fraction as a number and its scale, a power of
ten as a double, and the rest; digits past the precision are skipped. -/
def leadingFraction (cs : List Char) : Nat × Float × List Char :=
  let digits := cs.takeWhile (fun c => '0' ≤ c && c ≤ '9')
  let rest := cs.drop digits.length
  let step (st : Nat × Float × Bool) (c : Char) : Nat × Float × Bool :=
    let (x, scale, overflow) := st
    if overflow then st
    else if x > (Nat.pow 2 63 - 1) / 10 then (x, scale, true)
    else
      let y := x * 10 + (c.toNat - '0'.toNat)
      if y > Nat.pow 2 63 then (x, scale, true) else (y, scale * 10, false)
  let (x, scale, _) := digits.foldl step (0, 1, false)
  (x, scale, rest)

/-- Reads the numbers and units of a duration after its sign, adding to `total`. -/
def durationParts (total : Nat) : Nat → List Char → Option Nat
  | 0, _ => none
  | _ + 1, [] => some total
  | fuel + 1, cs@(c :: _) =>
    if !(c == '.' || ('0' ≤ c && c ≤ '9')) then none
    else do
      let (v, rest) ← leadingInt cs
      let pre := rest.length != cs.length
      let (f, scale, rest, post) := match rest with
        | '.' :: more =>
          let (f, scale, r) := leadingFraction more
          (f, scale, r, r.length != more.length)
        | _ => (0, 1, rest, false)
      if !pre && !post then none
      let unitText := rest.takeWhile (fun c => !(c == '.' || ('0' ≤ c && c ≤ '9')))
      if unitText.isEmpty then none
      let rest := rest.drop unitText.length
      let unit ← durationUnit (String.ofList unitText)
      if v > Nat.pow 2 63 / unit then none
      let mut v := v * unit
      if f > 0 then
        v := v + (Float.toUInt64 ((UInt64.ofNat f).toFloat * ((UInt64.ofNat unit).toFloat / scale))).toNat
        if v > Nat.pow 2 63 then none
      let total := total + v
      if total > Nat.pow 2 63 then none
      durationParts total fuel rest

/-- Reads a duration; none when the text is not one or it is out of range. -/
def parseDuration (s : String) : Option Int :=
  let (neg, cs) := match s.toList with
    | '-' :: r => (true, r)
    | '+' :: r => (false, r)
    | r => (false, r)
  if cs == ['0'] then some 0
  else if cs.isEmpty then none
  else
    match durationParts 0 (cs.length + 1) cs with
    | none => none
    | some d =>
      if neg then some (-(d : Int))
      else if d > Nat.pow 2 63 - 1 then none
      else some d

/-- The fraction of `v / 10 ^ prec` without trailing zeros (and without its
point when it is zero), and the whole part. -/
def fractionText (v prec : Nat) : String × Nat :=
  let digits := (List.range prec).map fun i => (v / Nat.pow 10 i) % 10
  let kept := digits.dropWhile (· == 0)
  let text := if kept.isEmpty then "" else "." ++ String.ofList (kept.reverse.map fun d => Char.ofNat (48 + d))
  (text, v / Nat.pow 10 prec)

/-- The text of a duration in nanoseconds. -/
def durationText (d : Int) : String :=
  let u := d.natAbs
  let sign := if d < 0 then "-" else ""
  if u == 0 then "0s"
  else if u < 1000000000 then
    let (prec, unit) :=
      if u < 1000 then (0, "ns") else if u < 1000000 then (3, "µs") else (6, "ms")
    let (frac, whole) := fractionText u prec
    sign ++ toString whole ++ frac ++ unit
  else
    let (frac, secs) := fractionText u 9
    let s := toString (secs % 60) ++ frac ++ "s"
    let mins := secs / 60
    if mins == 0 then sign ++ s
    else
      let m := toString (mins % 60) ++ "m" ++ s
      let hours := mins / 60
      if hours == 0 then sign ++ m else sign ++ toString hours ++ "h" ++ m

end UpnpBind.Text
