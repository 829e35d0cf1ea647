import Mathlib.Tactic.NormNum
import UpnpBind.Text.Decimal

/-!
# Decimal integers

A text spells an integer in decimal when it is an optional sign followed by one
or more ASCII digits, leading zeros allowed (`SpellsDecimal`).

`readInt64_eq_ok_iff`: a text is read as `v` exactly when it spells `v` and `v`
is a signed 64-bit integer, from -2^63 to 2^63 - 1. So every integer of that
range is read from each of its spellings, and no text is read as any other.
-/

namespace UpnpBind.Text

/-- An ASCII decimal digit. -/
def isAsciiDigit (c : Char) : Bool := '0' ≤ c && c ≤ '9'

/-- The value of the digits `cs` read onto the value `n` read so far. -/
def decimalValue (n : Nat) (cs : List Char) : Nat := cs.foldl (fun m c => m * 10 + (c.toNat - '0'.toNat)) n

/-- The text `s` spells `v` in decimal: an optional sign, then one or more digits. -/
def SpellsDecimal (s : String) (v : Int) : Prop :=
  ∃ digits : List Char, digits ≠ [] ∧ (∀ c ∈ digits, isAsciiDigit c) ∧
    (((s.toList = digits ∨ s.toList = '+' :: digits) ∧ v = decimalValue 0 digits) ∨
      (s.toList = '-' :: digits ∧ v = -(decimalValue 0 digits : Int)))

theorem le_decimalValue (n : Nat) (cs : List Char) : n ≤ decimalValue n cs := by
  induction cs generalizing n with
  | nil => exact Nat.le_refl n
  | cons c cs ih => exact Nat.le_trans (by omega) (ih (n * 10 + (c.toNat - '0'.toNat)))

/-- Digits read onto a value in range give their value, as long as it stays in
range; a value that leaves the range, or a character that is no digit, fails. -/
theorem readDigits_eq_ok_iff {n u : Nat} {cs : List Char} (hn : n ≤ maxUnsigned) :
    readDigits n cs = .ok u ↔ (∀ c ∈ cs, isAsciiDigit c) ∧ u = decimalValue n cs ∧ u ≤ maxUnsigned := by
  induction cs generalizing n with
  | nil =>
    rw [readDigits]
    simp only [Except.ok.injEq, List.not_mem_nil, IsEmpty.forall_iff, implies_true, true_and]
    exact ⟨fun h => ⟨h.symm, h ▸ hn⟩, fun h => h.1.symm⟩
  | cons c cs ih =>
    have hmax : maxUnsigned = 18446744073709551615 := rfl
    have hstep : decimalValue n (c :: cs) = decimalValue (n * 10 + (c.toNat - '0'.toNat)) cs := rfl
    have hle := le_decimalValue (n * 10 + (c.toNat - '0'.toNat)) cs
    unfold readDigits
    by_cases hc : isAsciiDigit c
    · have hc' : ('0' ≤ c && c ≤ '9') = true := hc
      simp only [hc', if_true, List.forall_mem_cons, hc, true_and, hstep]
      split
      · -- the value leaves the range before the next digit is added
        simp only [reduceCtorEq, false_iff, not_and, not_le]
        omega
      · split
        · simp only [reduceCtorEq, false_iff, not_and, not_le]
          omega
        · exact ih (by omega)
    · have hc' : ('0' ≤ c && c ≤ '9') = false := Bool.eq_false_iff.mpr hc
      simp only [hc', Bool.false_eq_true, if_false, reduceCtorEq, List.forall_mem_cons, hc, false_and]

theorem readUnsigned_eq_ok_iff {u : Nat} {cs : List Char} :
    readUnsigned cs = .ok u ↔
      cs ≠ [] ∧ (∀ c ∈ cs, isAsciiDigit c) ∧ u = decimalValue 0 cs ∧ u ≤ maxUnsigned := by
  unfold readUnsigned
  cases cs with
  | nil => simp
  | cons c cs =>
    simp only [List.isEmpty_cons, Bool.false_eq_true, if_false, ne_eq, reduceCtorEq, not_false_eq_true,
      true_and]
    exact readDigits_eq_ok_iff (Nat.zero_le _)

/-! ## Spellings by their sign -/

section Spellings

variable {s : String} {r : List Char} {v : Int}

theorem spellsDecimal_iff_of_plus (h : s.toList = '+' :: r) :
    SpellsDecimal s v ↔ r ≠ [] ∧ (∀ c ∈ r, isAsciiDigit c) ∧ v = decimalValue 0 r := by
  unfold SpellsDecimal
  rw [h]
  constructor
  · rintro ⟨d, hne, hdig, ⟨hd | hd, hv⟩ | ⟨hd, -⟩⟩
    · -- the sign would be a digit
      have hplus := hdig '+' (by simp [← hd])
      exact absurd hplus (by decide)
    · obtain ⟨-, rfl⟩ := List.cons.inj hd
      exact ⟨hne, hdig, hv⟩
    · exact absurd (List.cons.inj hd).1 (by decide)
  · rintro ⟨hne, hdig, hv⟩
    exact ⟨r, hne, hdig, .inl ⟨.inr rfl, hv⟩⟩

theorem spellsDecimal_iff_of_minus (h : s.toList = '-' :: r) :
    SpellsDecimal s v ↔ r ≠ [] ∧ (∀ c ∈ r, isAsciiDigit c) ∧ v = -(decimalValue 0 r : Int) := by
  unfold SpellsDecimal
  rw [h]
  constructor
  · rintro ⟨d, hne, hdig, ⟨hd | hd, -⟩ | ⟨hd, hv⟩⟩
    · have hminus := hdig '-' (by simp [← hd])
      exact absurd hminus (by decide)
    · exact absurd (List.cons.inj hd).1 (by decide)
    · obtain ⟨-, rfl⟩ := List.cons.inj hd
      exact ⟨hne, hdig, hv⟩
  · rintro ⟨hne, hdig, hv⟩
    exact ⟨r, hne, hdig, .inr ⟨rfl, hv⟩⟩

theorem spellsDecimal_iff_of_unsigned (hplus : ∀ r, s.toList ≠ '+' :: r) (hminus : ∀ r, s.toList ≠ '-' :: r) :
    SpellsDecimal s v ↔
      s.toList ≠ [] ∧ (∀ c ∈ s.toList, isAsciiDigit c) ∧ v = decimalValue 0 s.toList := by
  unfold SpellsDecimal
  constructor
  · rintro ⟨d, hne, hdig, ⟨hd | hd, hv⟩ | ⟨hd, -⟩⟩
    · subst hd
      exact ⟨hne, hdig, hv⟩
    · exact absurd hd (hplus d)
    · exact absurd hd (hminus d)
  · rintro ⟨hne, hdig, hv⟩
    exact ⟨s.toList, hne, hdig, .inl ⟨.inl rfl, hv⟩⟩

end Spellings

/-- The texts read as `v` are exactly its decimal spellings, and only for the
signed 64-bit integers. -/
theorem readInt64_eq_ok_iff {s : String} {v : Int} :
    readInt64 s = .ok v ↔ SpellsDecimal s v ∧ -2 ^ 63 ≤ v ∧ v < 2 ^ 63 := by
  have hpow : Nat.pow 2 63 = 9223372036854775808 := rfl
  have hmax : maxUnsigned = 18446744073709551615 := rfl
  have hbound : (2 : Int) ^ 63 = 9223372036854775808 := by norm_num
  unfold readInt64
  rw [hbound, hpow]
  split
  rename_i neg digits hsign
  -- the text spells the digits after its sign, read with that sign
  have hview : SpellsDecimal s v ↔ digits ≠ [] ∧ (∀ c ∈ digits, isAsciiDigit c) ∧
      v = if neg then -(decimalValue 0 digits : Int) else decimalValue 0 digits := by
    split at hsign <;> obtain ⟨rfl, rfl⟩ := Prod.mk.inj hsign
    · simpa using spellsDecimal_iff_of_plus ‹_›
    · simpa using spellsDecimal_iff_of_minus ‹_›
    · simpa using spellsDecimal_iff_of_unsigned ‹_› ‹_›
  rw [hview]
  clear hview hsign
  cases hu : readUnsigned digits with
  | error e =>
    simp only [reduceCtorEq, false_iff, not_and]
    rintro ⟨hne, hdig, hv⟩ hlo hhi
    -- digits giving a 64-bit value would have been read
    have hread := readUnsigned_eq_ok_iff.mpr ⟨hne, hdig, rfl, by cases neg <;> simp at hv <;> omega⟩
    rw [hu] at hread
    cases hread
  | ok u =>
    obtain ⟨hne, hdig, rfl, hle⟩ := readUnsigned_eq_ok_iff.mp hu
    have hdigits : (∀ c ∈ digits, isAsciiDigit c) ↔ True := iff_true_intro hdig
    cases neg <;> simp [hne, hdigits]
    · -- without a minus the value reaches 2^63 - 1 at most
      by_cases hlarge : 9223372036854775808 ≤ decimalValue 0 digits
      · simp only [hlarge, if_true, reduceCtorEq, false_iff, not_and]
        omega
      · simp only [hlarge, if_false, Except.ok.injEq]
        constructor <;> intro h <;> omega
    · -- with a minus it reaches -2^63
      by_cases hlarge : 9223372036854775808 < decimalValue 0 digits
      · simp only [hlarge, if_true, reduceCtorEq, false_iff, not_and]
        omega
      · simp only [hlarge, if_false, Except.ok.injEq]
        constructor <;> intro h <;> omega

example : (readInt64 "-9223372036854775808").toOption = some (-9223372036854775808) := by decide

example : (readInt64 "+09223372036854775808").toOption = none := by decide

end UpnpBind.Text
