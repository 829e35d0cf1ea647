import Mathlib.Data.List.Chain
import UpnpBind.Text.Letter
import UpnpBind.Text.Case

/-!
# What the simple case mappings do to character classes

A character class is searched by halving a table of ranges. On a table whose
ranges are well formed and in order, as the upper-case and letter tables are,
the search finds a code point exactly when some range holds it
(`Ranges.contains_iff`).

From the tables follow the facts that names built by case mapping rely on, over
all characters: an upper-case letter is a letter (`isLetter_of_isUpper`);
lower-casing keeps letters, never gives '_', and gives no upper-case letter that
lower-cases further (`isLetter_toLower`, `toLower_ne_underscore`,
`toLower_toLower_of_isUpper`); upper-casing keeps letters and digits and never
gives an ASCII lower-case letter (`toUpper_letter_or_digit`,
`toUpper_not_asciiLower`). ASCII characters take their fast path and are
checked on their 128 code points; above them a character either keeps its code
point or lies on a run of its mapping table, and the kernel checks each point of
each run (`lowerRuns_keep`, `upperRuns_keep`). There the class tables are
searched through a tree built from the same sorted list (`RangeTree`), which
finds the same ranges and costs the kernel far less than indexing the array.
-/

namespace UpnpBind.Text

/-- A property of the ASCII characters is checked on their 128 code points. -/
theorem of_ascii {P : Char → Prop} (h : ∀ n, n < 128 → P (Char.ofNat n)) {c : Char} (hc : c.toNat < 128) :
    P c := by
  simpa [Char.ofNat_toNat] using h c.toNat hc

/-! ## Sorted range tables -/

/-- Range `p` is well formed and lies wholly before the well-formed range `q`. -/
def Ranges.Before (p q : Nat × Nat) : Prop := p.1 ≤ p.2 ∧ p.2 < q.1 ∧ q.1 ≤ q.2

instance : DecidableRel Ranges.Before := fun _ _ => inferInstanceAs (Decidable (_ ∧ _ ∧ _))

theorem Ranges.before_trans {p q r : Nat × Nat} (hpq : Before p q) (hqr : Before q r) : Before p r := by
  unfold Before at *
  omega

instance : IsTrans (Nat × Nat) Ranges.Before := ⟨fun _ _ _ => Ranges.before_trans⟩

section Sorted

variable {rs : Ranges} (hs : rs.toList.Pairwise Ranges.Before)
include hs

theorem Ranges.before_of_lt {i j : Nat} (hi : i < rs.size) (hj : j < rs.size) (hij : i < j) :
    Before rs[i] rs[j] := by
  have h := List.pairwise_iff_getElem.mp hs i j (by simpa using hi) (by simpa using hj) hij
  simp only [Array.getElem_toList] at h
  exact h

/-- A code point below the start of the range at `m` lies in no range from `m` on. -/
theorem Ranges.lt_of_lt_start {c m i : Nat} (hm : m < rs.size) (hi : i < rs.size) (hcm : c < rs[m].1)
    (hci : rs[i].1 ≤ c) : i < m := by
  by_contra hle
  rcases Nat.lt_or_eq_of_le (Nat.le_of_not_lt hle) with hlt | rfl
  · have := before_of_lt hs hm hi hlt
    unfold Before at this
    omega
  · omega

/-- A code point above the end of the range at `m` lies in no range up to `m`. -/
theorem Ranges.gt_of_end_lt {c m i : Nat} (hm : m < rs.size) (hi : i < rs.size) (hcm : rs[m].2 < c)
    (hci : c ≤ rs[i].2) : m < i := by
  by_contra hle
  rcases Nat.lt_or_eq_of_le (Nat.le_of_not_lt hle) with hlt | rfl
  · have := before_of_lt hs hi hm hlt
    unfold Before at this
    omega
  · omega

/-- The halving search finds `c` exactly when some range with index in `[lo, hi)` holds it. -/
theorem Ranges.searchIn_iff (c : Nat) {lo hi : Nat} (hhi : hi ≤ rs.size) :
    rs.searchIn c lo hi = true ↔ ∃ i, ∃ h : i < rs.size, lo ≤ i ∧ i < hi ∧ rs[i].1 ≤ c ∧ c ≤ rs[i].2 := by
  fun_induction Ranges.searchIn rs c lo hi with
  | case1 lo hi hlt hget =>
    simp [Array.getElem?_eq_getElem (show (lo + hi) / 2 < rs.size by omega)] at hget
  | case2 lo hi hlt a b hget hca ih =>
    obtain ⟨hmid, hm⟩ := Array.getElem?_eq_some_iff.mp hget
    -- the ranges from the middle one on start after `c`
    refine (ih (by omega)).trans ⟨fun ⟨i, h, hlo, _, hc⟩ => ⟨i, h, hlo, by omega, hc⟩, ?_⟩
    rintro ⟨i, h, hlo, -, hc⟩
    exact ⟨i, h, hlo, lt_of_lt_start hs hmid h (by rw [hm]; exact hca) hc.1, hc⟩
  | case3 lo hi hlt a b hget hca hbc ih =>
    obtain ⟨hmid, hm⟩ := Array.getElem?_eq_some_iff.mp hget
    -- the ranges up to the middle one end before `c`
    refine (ih hhi).trans ⟨fun ⟨i, h, _, hlt', hc⟩ => ⟨i, h, by omega, hlt', hc⟩, ?_⟩
    rintro ⟨i, h, -, hlt', hc⟩
    exact ⟨i, h, gt_of_end_lt hs hmid h (by rw [hm]; omega) hc.2, hlt', hc⟩
  | case4 lo hi hlt a b hget hca hbc =>
    obtain ⟨hmid, hm⟩ := Array.getElem?_eq_some_iff.mp hget
    simp only [true_iff]
    exact ⟨(lo + hi) / 2, hmid, by omega, by omega, by rw [hm]; omega, by rw [hm]; omega⟩
  | case5 lo hi hge =>
    simp only [Bool.false_eq_true, false_iff, not_exists, not_and]
    intro i h hlo hlt
    omega

/-- The search of a sorted table agrees with its plain reading. -/
theorem Ranges.contains_iff (c : Nat) : rs.contains c = true ↔ rs.Holds c := by
  rw [Ranges.contains, searchIn_iff hs c (Nat.le_refl _)]
  constructor
  · rintro ⟨i, h, -, -, hc⟩
    exact ⟨rs[i], Array.getElem_mem_toList h, hc⟩
  · rintro ⟨r, hr, hc⟩
    obtain ⟨i, h, rfl⟩ := List.getElem_of_mem hr
    exact ⟨i, by simpa using h, Nat.zero_le _, by simpa using h, by simpa using hc⟩

end Sorted

/-! ## Search trees over ranges -/

/-- A binary tree of ranges, searched by comparing with the range at each node. -/
inductive RangeTree where
  | leaf
  | node (left : RangeTree) (range : Nat × Nat) (right : RangeTree)

/-- The tree of a list of ranges: the middle range at the root, the ranges before
it on the left and those after it on the right. -/
def RangeTree.ofList (l : List (Nat × Nat)) : RangeTree :=
  match h : l.drop (l.length / 2) with
  | [] => .leaf
  | r :: rest => .node (ofList (l.take (l.length / 2))) r (ofList rest)
termination_by l.length
decreasing_by
  · have hne : l ≠ [] := by
      rintro rfl
      simp at h
    have := List.length_pos_iff.mpr hne
    simp only [List.length_take]
    omega
  · have := congrArg List.length h
    simp only [List.length_drop, List.length_cons] at this
    omega

/-- The range of the tree that holds `c`, found by descending from the root. -/
def RangeTree.find? : RangeTree → Nat → Option (Nat × Nat)
  | .leaf, _ => none
  | .node left r right, c => if c < r.1 then left.find? c else if r.2 < c then right.find? c else some r

/-- What the tree of a list finds is a range of the list that holds the code point. -/
theorem RangeTree.find?_ofList_sound {l : List (Nat × Nat)} {c : Nat} {r : Nat × Nat} :
    (ofList l).find? c = some r → r ∈ l ∧ r.1 ≤ c ∧ c ≤ r.2 := by
  fun_induction ofList l with
  | case1 l _ => simp [find?]
  | case2 l r' rest hdrop ihl ihr =>
    intro h
    simp only [find?] at h
    split at h
    · exact ⟨List.mem_of_mem_take (ihl h).1, (ihl h).2⟩
    · split at h
      · have hrest : r ∈ l.drop (l.length / 2) := by rw [hdrop]; exact List.mem_cons_of_mem _ (ihr h).1
        exact ⟨List.mem_of_mem_drop hrest, (ihr h).2⟩
      · cases h
        have hr : r ∈ l.drop (l.length / 2) := by rw [hdrop]; exact List.mem_cons_self ..
        exact ⟨List.mem_of_mem_drop hr, by omega, by omega⟩

/-- The tree of a sorted list finds every code point some range of the list holds. -/
theorem RangeTree.find?_ofList_isSome {l : List (Nat × Nat)} (hs : l.Pairwise Ranges.Before) {c : Nat}
    {r : Nat × Nat} (hr : r ∈ l) (hc : r.1 ≤ c ∧ c ≤ r.2) : ((ofList l).find? c).isSome := by
  fun_induction ofList l with
  | case1 l hnil =>
    have hlen : l.length ≤ l.length / 2 := List.drop_eq_nil_iff.mp hnil
    have : l = [] := List.length_eq_zero_iff.mp (by omega)
    simp [this] at hr
  | case2 l r' rest hdrop ihl ihr =>
    have hsplit : l = l.take (l.length / 2) ++ r' :: rest := by rw [← hdrop, List.take_append_drop]
    rw [hsplit] at hs hr
    obtain ⟨hsl, hsr, hcross⟩ := List.pairwise_append.mp hs
    obtain ⟨hafter, hsrest⟩ := List.pairwise_cons.mp hsr
    simp only [find?]
    split
    · -- a range at or after the root starts after `c`, so `r` is on the left
      rcases List.mem_append.mp hr with hl | hright
      · exact ihl hsl hl
      · rcases List.mem_cons.mp hright with rfl | hrest
        · omega
        · have := hafter r hrest
          unfold Ranges.Before at this
          omega
    · split
      · -- a range before the root ends before `c`, so `r` is on the right
        rcases List.mem_append.mp hr with hl | hright
        · have := hcross r hl r' (List.mem_cons_self ..)
          unfold Ranges.Before at this
          omega
        · rcases List.mem_cons.mp hright with rfl | hrest
          · omega
          · exact ihr hsrest hrest
      · rfl

/-- On a sorted table the halving search and the tree of its ranges agree. -/
theorem Ranges.contains_eq_find? {rs : Ranges} (hs : rs.toList.Pairwise Before) (c : Nat) :
    rs.contains c = ((RangeTree.ofList rs.toList).find? c).isSome := by
  rw [Bool.eq_iff_iff, contains_iff hs]
  constructor
  · rintro ⟨r, hr, hc⟩
    exact RangeTree.find?_ofList_isSome hs hr hc
  · intro h
    obtain ⟨r, hr⟩ := Option.isSome_iff_exists.mp h
    exact ⟨r, RangeTree.find?_ofList_sound hr⟩

theorem upperRanges_sorted : upperRanges.toList.Pairwise Ranges.Before :=
  List.isChain_iff_pairwise.mp (by decide +kernel)

theorem letterRanges_sorted : letterRanges.toList.Pairwise Ranges.Before :=
  List.isChain_iff_pairwise.mp (by decide +kernel)

/-- `isUpper` with its table searched through the tree of its ranges. -/
theorem isUpper_eq_find? (c : Char) : isUpper c =
    if c.toNat < 128 then 'A' ≤ c && c ≤ 'Z'
    else ((RangeTree.ofList upperRanges.toList).find? c.toNat).isSome := by
  rw [isUpper, Ranges.contains_eq_find? upperRanges_sorted]

/-- `isLetter` with its table searched through the tree of its ranges. -/
theorem isLetter_eq_find? (c : Char) : isLetter c =
    if c.toNat < 128 then ('A' ≤ c && c ≤ 'Z') || ('a' ≤ c && c ≤ 'z')
    else ((RangeTree.ofList letterRanges.toList).find? c.toNat).isSome := by
  rw [isLetter, Ranges.contains_eq_find? letterRanges_sorted]

/-- Every upper-case range lies within one letter range. -/
theorem upperRanges_within_letters :
    ∀ p ∈ upperRanges.toList, ∃ q ∈ letterRanges.toList, q.1 ≤ p.1 ∧ p.2 ≤ q.2 := by
  have h : upperRanges.toList.all
      (fun p => ((RangeTree.ofList letterRanges.toList).find? p.1).any fun q => p.2 ≤ q.2) = true := by
    decide +kernel
  intro p hp
  obtain ⟨q, hq, hle⟩ := (Option.any_eq_true _ _).mp (List.all_eq_true.mp h p hp)
  obtain ⟨hmem, hlo, -⟩ := RangeTree.find?_ofList_sound hq
  exact ⟨q, hmem, hlo, by simpa using hle⟩

/-- An upper-case letter is a letter. -/
theorem isLetter_of_isUpper {c : Char} (h : isUpper c = true) : isLetter c = true := by
  by_cases hc : c.toNat < 128
  · exact of_ascii (P := fun c => isUpper c = true → isLetter c = true) (by decide) hc h
  · rw [isUpper, if_neg hc, Ranges.contains_iff upperRanges_sorted] at h
    obtain ⟨p, hp, hlo, hhi⟩ := h
    obtain ⟨q, hq, hqlo, hqhi⟩ := upperRanges_within_letters p hp
    rw [isLetter, if_neg hc, Ranges.contains_iff letterRanges_sorted]
    exact ⟨q, hq, by omega, by omega⟩

/-! ## Case runs -/

/-- The code points a run moves: `lo`, `lo + step`, … up to `hi`. -/
def CaseRun.points (r : CaseRun) : List Nat :=
  (List.range ((r.hi - r.lo) / r.step + 1)).map fun k => r.lo + k * r.step

/-- Where the run moves the code point `x`. -/
def CaseRun.target (r : CaseRun) (x : Nat) : Char := Char.ofNat ((x : Int) + r.delta).toNat

theorem CaseRun.mem_points_of_image? {r : CaseRun} {c n : Nat} (h : r.image? c = some n) :
    c ∈ r.points ∧ n = ((c : Int) + r.delta).toNat := by
  simp only [image?] at h
  split at h
  · rename_i hc
    obtain ⟨hlo, hhi, hmod⟩ := hc
    refine ⟨?_, (Option.some.inj h).symm⟩
    simp only [points, List.mem_map, List.mem_range]
    refine ⟨(c - r.lo) / r.step, ?_, ?_⟩
    · have := Nat.div_le_div_right (c := r.step) (show c - r.lo ≤ r.hi - r.lo by omega)
      omega
    · have := Nat.div_add_mod (c - r.lo) r.step
      rw [hmod, Nat.add_zero] at this
      rw [Nat.mul_comm]
      omega
  · cases h

theorem searchRuns_eq_some {rs : Array CaseRun} {c lo hi n : Nat} (h : searchRuns rs c lo hi = some n) :
    ∃ r ∈ rs.toList, r.image? c = some n := by
  fun_induction searchRuns rs c lo hi with
  | case1 lo hi _ hget => simp at h
  | case2 lo hi _ r hget _ ih => exact ih h
  | case3 lo hi _ r hget _ _ ih => exact ih h
  | case4 lo hi _ r hget _ _ => exact ⟨r, Array.mem_toList_iff.mpr (Array.mem_of_getElem? hget), h⟩
  | case5 lo hi _ => simp at h

/-- A table of runs keeps a character, or moves it as a point of one of its runs. -/
theorem mapByRuns_cases (rs : Array CaseRun) (c : Char) :
    mapByRuns rs c = c ∨ ∃ r ∈ rs.toList, c.toNat ∈ r.points ∧ mapByRuns rs c = r.target c.toNat := by
  unfold mapByRuns
  split
  · rename_i n hn
    obtain ⟨r, hr, himg⟩ := searchRuns_eq_some hn
    obtain ⟨hx, rfl⟩ := CaseRun.mem_points_of_image? himg
    exact .inr ⟨r, hr, hx, rfl⟩
  · exact .inl rfl

/-- Lower-casing takes the ASCII path, keeps a character above it, or moves it as
a point of a lower-case run. -/
theorem toLower_cases (c : Char) :
    c.toNat < 128 ∨ (128 ≤ c.toNat ∧ toLower c = c) ∨
      ∃ r ∈ lowerRuns.toList, c.toNat ∈ r.points ∧ toLower c = r.target c.toNat := by
  by_cases hc : c.toNat < 128
  · exact .inl hc
  · rw [toLower, if_neg hc]
    rcases mapByRuns_cases lowerRuns c with heq | hrun
    · exact .inr (.inl ⟨by omega, heq⟩)
    · exact .inr (.inr hrun)

/-- Upper-casing takes the ASCII path, keeps a character above it, or moves it as
a point of an upper-case run. -/
theorem toUpper_cases (c : Char) :
    c.toNat < 128 ∨ (128 ≤ c.toNat ∧ toUpper c = c) ∨
      ∃ r ∈ upperRuns.toList, c.toNat ∈ r.points ∧ toUpper c = r.target c.toNat := by
  by_cases hc : c.toNat < 128
  · exact .inl hc
  · rw [toUpper, if_neg hc]
    rcases mapByRuns_cases upperRuns c with heq | hrun
    · exact .inr (.inl ⟨by omega, heq⟩)
    · exact .inr (.inr hrun)

/-- At every point a lower-case run moves: a letter goes to a letter, the target
lower-cases to itself if it is upper case, and the target is not '_'. -/
theorem lowerRuns_keep : ∀ r ∈ lowerRuns.toList, ∀ x ∈ r.points,
    (isLetter (Char.ofNat x) = true → isLetter (r.target x) = true) ∧
      (isUpper (r.target x) = true → toLower (r.target x) = r.target x) ∧ r.target x ≠ '_' := by
  have h : lowerRuns.toList.all (fun r => r.points.all fun x =>
      (isLetter (r.target x) || !isLetter (Char.ofNat x)) &&
        (!isUpper (r.target x) || toLower (r.target x) == r.target x) && r.target x != '_') = true := by
    -- search the class tables through their trees, which the kernel evaluates far faster
    simp only [isLetter_eq_find?, isUpper_eq_find?]
    decide +kernel
  intro r hr x hx
  have := List.all_eq_true.mp (List.all_eq_true.mp h r hr) x hx
  simp only [Bool.and_eq_true, Bool.or_eq_true, Bool.not_eq_true', beq_iff_eq, bne_iff_ne, ne_eq] at this
  obtain ⟨⟨hletter, hupper⟩, hne⟩ := this
  refine ⟨fun hx' => ?_, fun hy => ?_, hne⟩
  · rcases hletter with h' | h'
    · exact h'
    · simp [h'] at hx'
  · rcases hupper with h' | h'
    · simp [h'] at hy
    · exact h'

/-- At every point an upper-case run moves: a letter or digit goes to a letter or
digit, and the target is no ASCII lower-case letter. -/
theorem upperRuns_keep : ∀ r ∈ upperRuns.toList, ∀ x ∈ r.points,
    (isLetter (Char.ofNat x) = true ∨ isDecimalDigit (Char.ofNat x) = true →
      isLetter (r.target x) = true ∨ isDecimalDigit (r.target x) = true) ∧
      ¬('a' ≤ r.target x ∧ r.target x ≤ 'z') := by
  have h : upperRuns.toList.all (fun r => r.points.all fun x =>
      (isLetter (r.target x) || isDecimalDigit (r.target x) ||
        !(isLetter (Char.ofNat x) || isDecimalDigit (Char.ofNat x))) &&
        !('a' ≤ r.target x && r.target x ≤ 'z')) = true := by
    -- as for the lower-case runs, the letter table is searched through its tree
    simp only [isLetter_eq_find?]
    decide +kernel
  intro r hr x hx
  have := List.all_eq_true.mp (List.all_eq_true.mp h r hr) x hx
  simp only [Bool.and_eq_true, Bool.or_eq_true, Bool.not_eq_eq_eq_not, Bool.not_true, Bool.or_eq_false_iff,
    Bool.and_eq_false_iff, decide_eq_false_iff_not] at this
  obtain ⟨hkeep, hlow⟩ := this
  refine ⟨fun hx' => ?_, fun ⟨ha, hz⟩ => hlow.elim (· ha) (· hz)⟩
  rcases hkeep with h' | ⟨hl, hd⟩
  · exact h'
  · rcases hx' with h'' | h'' <;> simp_all

/-! ## Lower-casing and upper-casing -/

/-- Lower-casing keeps letters. -/
theorem isLetter_toLower {c : Char} (h : isLetter c = true) : isLetter (toLower c) = true := by
  rcases toLower_cases c with hc | ⟨-, heq⟩ | ⟨r, hr, hx, heq⟩
  · exact of_ascii (P := fun c => isLetter c = true → isLetter (toLower c) = true) (by decide) hc h
  · rwa [heq]
  · rw [heq]
    exact (lowerRuns_keep r hr _ hx).1 (by rwa [Char.ofNat_toNat])

/-- Lower-casing gives '_' only from '_'. -/
theorem toLower_ne_underscore {c : Char} (h : c ≠ '_') : toLower c ≠ '_' := by
  rcases toLower_cases c with hc | ⟨-, heq⟩ | ⟨r, hr, hx, heq⟩
  · exact of_ascii (P := fun c => c ≠ '_' → toLower c ≠ '_') (by decide) hc h
  · rwa [heq]
  · rw [heq]
    exact (lowerRuns_keep r hr _ hx).2.2

/-- A lower-cased character that is upper case lower-cases to itself. -/
theorem toLower_toLower_of_isUpper {c : Char} (h : isUpper (toLower c) = true) :
    toLower (toLower c) = toLower c := by
  rcases toLower_cases c with hc | ⟨-, heq⟩ | ⟨r, hr, hx, heq⟩
  · exact of_ascii (P := fun c => isUpper (toLower c) = true → toLower (toLower c) = toLower c) (by decide) hc h
  · rw [heq, heq]
  · rw [heq] at h ⊢
    exact (lowerRuns_keep r hr _ hx).2.1 h

theorem not_asciiLower_of_ge {c : Char} (hc : 128 ≤ c.toNat) : ¬('a' ≤ c ∧ c ≤ 'z') := by
  rintro ⟨-, hz⟩
  rw [Char.le_def, UInt32.le_iff_toNat_le] at hz
  have : c.toNat = c.val.toNat := rfl
  simp at hz
  omega

/-- Upper-casing keeps letters and digits, as letters or digits. -/
theorem toUpper_letter_or_digit {c : Char} (h : isLetter c = true ∨ isDecimalDigit c = true) :
    isLetter (toUpper c) = true ∨ isDecimalDigit (toUpper c) = true := by
  rcases toUpper_cases c with hc | ⟨-, heq⟩ | ⟨r, hr, hx, heq⟩
  · exact of_ascii (P := fun c => isLetter c = true ∨ isDecimalDigit c = true →
      isLetter (toUpper c) = true ∨ isDecimalDigit (toUpper c) = true) (by decide) hc h
  · rwa [heq]
  · rw [heq]
    exact (upperRuns_keep r hr _ hx).1 (by rwa [Char.ofNat_toNat])

/-- Upper-casing never gives an ASCII lower-case letter. -/
theorem toUpper_not_asciiLower (c : Char) : ¬('a' ≤ toUpper c ∧ toUpper c ≤ 'z') := by
  rcases toUpper_cases c with hc | ⟨hge, heq⟩ | ⟨r, hr, hx, heq⟩
  · exact of_ascii (P := fun c => ¬('a' ≤ toUpper c ∧ toUpper c ≤ 'z')) (by decide) hc
  · rw [heq]
    exact not_asciiLower_of_ge hge
  · rw [heq]
    exact (upperRuns_keep r hr _ hx).2

end UpnpBind.Text
