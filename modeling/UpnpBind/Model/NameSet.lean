/-!
# Insertion-ordered name sets

A name set keeps each name once, in the order it was first added. It collects
the raw action names of every service, which the shared response envelope
lists as aliases in sorted order.

The set is held twice: as the list of its names in order, and as a lookup
that maps each name it holds to `true`. The lookup of the zero value has no
entries and reads `false` everywhere, so creating it on the first addition
changes nothing that can be observed. An addition asks the lookup and updates
both; the structure carries the proofs that the two agree and that the list
repeats no name.
-/

namespace UpnpBind.Model

/-- A set of names in first-insertion order, with the lookup that answers
membership. -/
structure NameSet where
  names : List String
  seen : String → Bool
  nodup : names.Nodup
  seen_iff : ∀ x, seen x = true ↔ x ∈ names

namespace NameSet

/-- The empty set. -/
def empty : NameSet := ⟨[], fun _ => false, List.nodup_nil, fun _ => by simp⟩

instance : Inhabited NameSet := ⟨empty⟩

/-- The lookup is determined by the names, so sets with the same names are equal. -/
theorem ext {s t : NameSet} (h : s.names = t.names) : s = t := by
  obtain ⟨names, seen, nodup, seen_iff⟩ := s
  obtain ⟨names', seen', nodup', seen_iff'⟩ := t
  dsimp only at h
  subst h
  have hseen : seen = seen' :=
    funext fun x => Bool.eq_iff_iff.mpr ((seen_iff x).trans (seen_iff' x).symm)
  subst hseen
  rfl

/-- Two sets are equal when they hold the same names in the same order. -/
instance : DecidableEq NameSet := fun s t =>
  if h : s.names = t.names then isTrue (ext h)
  else isFalse fun e => h (congrArg NameSet.names e)

/-- Whether a name is in the set, as the lookup answers. -/
def has (s : NameSet) (name : String) : Bool := s.seen name

/-- The number of names in the set. -/
def size (s : NameSet) : Nat := s.names.length

/-- A name the lookup does not hold may go at the end of the list. -/
theorem nodup_append_of_not_seen {s : NameSet} {name : String} (h : ¬s.seen name = true) :
    (s.names ++ [name]).Nodup := by
  have hnew : name ∉ s.names := fun hmem => h ((s.seen_iff name).mpr hmem)
  rw [List.nodup_append]
  refine ⟨s.nodup, List.nodup_cons.mpr ⟨List.not_mem_nil, List.nodup_nil⟩, ?_⟩
  intro a ha b hb hab
  rw [List.mem_singleton] at hb
  subst hb hab
  exact hnew ha

/-- The lookup with one more entry agrees with the list with that name at the end. -/
theorem seen_update_iff (s : NameSet) (name x : String) :
    (x == name || s.seen x) = true ↔ x ∈ s.names ++ [name] := by
  simp [s.seen_iff x, or_comm]

/-- Adds one name at the end and to the lookup, unless the lookup holds it already. -/
def insert (s : NameSet) (name : String) : NameSet :=
  if h : s.seen name then s
  else
    { names := s.names ++ [name]
      seen := fun x => x == name || s.seen x
      nodup := nodup_append_of_not_seen h
      seen_iff := seen_update_iff s name }

/-- Adds names in order; each one already present is skipped. -/
def add (s : NameSet) (names : List String) : NameSet := names.foldl insert s

/-- The names in lexical order. -/
def sorted (s : NameSet) : List String := s.names.mergeSort (fun a b => decide (a ≤ b))

end NameSet

end UpnpBind.Model
