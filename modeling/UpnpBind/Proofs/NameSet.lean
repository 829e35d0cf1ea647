import UpnpBind.Model.NameSet

/-!
# Name sets as first occurrences

Adding names to a name set keeps, after the names already there, the first
occurrence of each new name in order: the names of `s.add xs` are those of
`s.names ++ xs` with every repeat dropped (`names_add`). Adding the names of a
set that was built by adding `xs` is the same as adding `xs` itself
(`add_names_add`), which is why names collected in a scratch set and merged
later end up as if they had been added directly.

The last section is about every set reached from the empty one by a sequence
of additions: its list and its lookup agree, an addition appends the first
occurrences of the new names, additions compose and do nothing when repeated,
and its sorted names strictly increase.
-/

namespace UpnpBind.Model.NameSet

/-! ## Insertion -/

theorem insert_of_mem {s : NameSet} {x : String} (h : x ∈ s.names) : s.insert x = s := by
  simp [insert, (s.seen_iff x).mpr h]

theorem names_insert_of_not_mem {s : NameSet} {x : String} (h : x ∉ s.names) :
    (s.insert x).names = s.names ++ [x] := by
  have hx : ¬s.seen x = true := fun hs => h ((s.seen_iff x).mp hs)
  simp [insert, hx]

theorem mem_names_insert {s : NameSet} {x y : String} : x ∈ (s.insert y).names ↔ x ∈ s.names ∨ x = y := by
  by_cases hy : y ∈ s.names
  · rw [insert_of_mem hy]
    constructor
    · exact Or.inl
    · rintro (hx | rfl)
      · exact hx
      · exact hy
  · simp [names_insert_of_not_mem hy]

@[simp] theorem add_nil (s : NameSet) : s.add [] = s := rfl

@[simp] theorem add_cons (s : NameSet) (x : String) (xs : List String) : s.add (x :: xs) = (s.insert x).add xs := rfl

theorem add_append (s : NameSet) (xs ys : List String) : s.add (xs ++ ys) = (s.add xs).add ys :=
  List.foldl_append

theorem add_singleton (s : NameSet) (x : String) : s.add [x] = s.insert x := rfl

theorem mem_names_add {s : NameSet} {x : String} {xs : List String} :
    x ∈ (s.add xs).names ↔ x ∈ s.names ∨ x ∈ xs := by
  induction xs generalizing s with
  | nil => simp
  | cons y ys ih =>
    rw [add_cons, ih, mem_names_insert, List.mem_cons, or_assoc]

/-! ## First occurrences -/

theorem eraseDups_eq_self {l : List String} (h : l.Nodup) : l.eraseDups = l := by
  induction l with
  | nil => rfl
  | cons a l ih =>
    rw [List.nodup_cons] at h
    have hkeep : l.filter (fun b => !b == a) = l := by
      rw [List.filter_eq_self]
      intro b hb
      have hba : b ≠ a := fun hba => h.1 (hba ▸ hb)
      simpa using hba
    rw [List.eraseDups_cons, hkeep, ih h.2]

/-- A name already among the first ones adds nothing where it repeats. -/
theorem eraseDups_append_cons_of_mem {l xs : List String} {x : String} (hx : x ∈ l) :
    (l ++ x :: xs).eraseDups = (l ++ xs).eraseDups := by
  rw [List.eraseDups_append, List.eraseDups_append]
  congr 2
  simp [List.removeAll, hx]

/-- The names of a set grown by `xs`: the old names, then the first occurrence of
each name of `xs` not among them, in order. -/
theorem names_add (s : NameSet) (xs : List String) : (s.add xs).names = (s.names ++ xs).eraseDups := by
  induction xs generalizing s with
  | nil => simp [eraseDups_eq_self s.nodup]
  | cons x xs ih =>
    rw [add_cons, ih]
    by_cases hx : x ∈ s.names
    · rw [insert_of_mem hx, eraseDups_append_cons_of_mem hx]
    · rw [names_insert_of_not_mem hx, List.append_assoc, List.singleton_append]

/-- What an addition appends: the first occurrence of each name of `xs` that the
set does not hold, in the order of `xs`. -/
theorem names_add_eq_append (s : NameSet) (xs : List String) :
    (s.add xs).names = s.names ++ (xs.removeAll s.names).eraseDups := by
  rw [names_add, List.eraseDups_append, eraseDups_eq_self s.nodup]

/-! ## Repeated additions -/

/-- Adding names the set holds already leaves it as it is. -/
theorem add_of_subset {s : NameSet} {xs : List String} (h : ∀ x ∈ xs, x ∈ s.names) : s.add xs = s := by
  induction xs with
  | nil => rfl
  | cons x xs ih =>
    have hx : x ∈ s.names := h x List.mem_cons_self
    rw [add_cons, insert_of_mem hx, ih fun y hy => h y (List.mem_cons_of_mem x hy)]

/-- Adding the same names a second time changes nothing. -/
theorem add_add_self (s : NameSet) (xs : List String) : (s.add xs).add xs = s.add xs :=
  add_of_subset fun _ hx => mem_names_add.mpr (Or.inr hx)

/-- Adding the names of `t` with `x` inserted is adding those of `t`, then `x`. -/
theorem add_names_insert (s t : NameSet) (x : String) : s.add (t.insert x).names = (s.add t.names).insert x := by
  by_cases hx : x ∈ t.names
  · have hx' : x ∈ (s.add t.names).names := mem_names_add.mpr (Or.inr hx)
    rw [insert_of_mem hx, insert_of_mem hx']
  · rw [names_insert_of_not_mem hx, add_append, add_singleton]

/-- Adding the names of `t` grown by `xs` is adding those of `t`, then `xs`. -/
theorem add_names_add (s t : NameSet) (xs : List String) : s.add (t.add xs).names = (s.add t.names).add xs := by
  induction xs generalizing t with
  | nil => rfl
  | cons x xs ih => rw [add_cons, ih, add_names_insert, add_cons]

/-- Names gathered in a scratch set and added later are added as if directly. -/
theorem add_names_empty_add (s : NameSet) (xs : List String) : s.add (empty.add xs).names = s.add xs := by
  rw [add_names_add]
  rfl

/-! ## Sorted names -/

/-- Distinct names sorted by `≤` come out in strictly increasing order. -/
theorem mergeSort_pairwise_lt {xs : List String} (h : xs.Nodup) :
    (xs.mergeSort fun a b => decide (a ≤ b)).Pairwise (· < ·) := by
  have hle : (xs.mergeSort fun a b => decide (a ≤ b)).Pairwise fun a b => decide (a ≤ b) :=
    List.pairwise_mergeSort (fun _ _ _ hab hbc => by simpa using String.le_trans (by simpa using hab) (by simpa using hbc))
      (fun a b => by simpa using String.le_total a b) xs
  have hnodup : (xs.mergeSort fun a b => decide (a ≤ b)).Nodup := (List.mergeSort_perm xs _).nodup_iff.mpr h
  -- a name at most another and distinct from it is below it, since `≤` is antisymmetric
  exact (hle.and hnodup).imp fun ⟨hab, hne⟩ =>
    String.not_le.mp fun hba => hne (String.le_antisymm (by simpa using hab) hba)

theorem sorted_perm (s : NameSet) : s.sorted.Perm s.names := List.mergeSort_perm _ _

theorem sorted_pairwise_lt (s : NameSet) : s.sorted.Pairwise (· < ·) := mergeSort_pairwise_lt s.nodup

/-! ## Sets reached by additions -/

/-- Every set is the empty one with its names added, so the sets are exactly
those that additions build. -/
theorem empty_add_names (s : NameSet) : empty.add s.names = s :=
  ext (by rw [names_add]; exact eraseDups_eq_self s.nodup)

/-- Every name set is built from the empty one by additions; it lists each name
once, its lookup holds exactly the names it lists, and its size counts them. A
further addition appends the first occurrence of each name it does not hold, in
order; so two additions are one addition of both lists, and adding the same
names again changes nothing. Its sorted names are its names, in strictly
increasing order. -/
theorem added_sets_keep_first_occurrences (s : NameSet) (xs ys : List String) :
    empty.add s.names = s ∧ s.names.Nodup ∧ (∀ x, s.has x = true ↔ x ∈ s.names) ∧
      s.size = s.names.length ∧ (s.add xs).names = s.names ++ (xs.removeAll s.names).eraseDups ∧
      (s.add xs).add ys = s.add (xs ++ ys) ∧ (s.add xs).add xs = s.add xs ∧
      s.sorted.Perm s.names ∧ s.sorted.Pairwise (· < ·) :=
  -- the list and the lookup agree in every set: each insertion keeps the invariants the set carries
  ⟨empty_add_names s, s.nodup, s.seen_iff, rfl, names_add_eq_append s xs, (add_append s xs ys).symm,
    add_add_self s xs, sorted_perm s, sorted_pairwise_lt s⟩

example : ((empty.add ["b", "a", "b"]).add ["c"]).names = ["b", "a", "c"] ∧
    ((empty.add ["b", "a", "b"]).add ["c"]).has "a" = true ∧
    ((empty.add ["b", "a", "b"]).add ["c"]).has "d" = false ∧
    ((empty.add ["b", "a", "b"]).add ["c"]).size = 3 := by
  decide

end UpnpBind.Model.NameSet
