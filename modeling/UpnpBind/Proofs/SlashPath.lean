import UpnpBind.Text.SlashPath

/-!
# Paths of plain elements

A plain path element is one that cleaning leaves alone: it is not empty, not
"." or "..", and holds no slash. Parts without slashes, joined with slashes,
split back into the same parts (`split_intercalate`), so two such joins are
equal only when their parts are (`intercalate_inj`). Plain elements joined by
`joinPath` are joined with single slashes and nothing else
(`joinPath_of_plain`): the path is already clean, it is relative, and its
elements are the parts.

A join of two paths splits into the elements of both (`split_join`), and
cleaning is a left fold over the elements (`cancelDots_append`), so the clean
form of a join is the first path's stack with the second path's elements
folded onto it.

Cleaning only drops and keeps elements, so a clean path, and a join, holds no
character but slashes, dots and those of its parts (`not_mem_joinPath`).
-/

namespace UpnpBind.Text

/-- A path element that cleaning keeps as it is. -/
structure PlainElement (e : String) : Prop where
  ne_empty : e ≠ ""
  ne_dot : e ≠ "."
  ne_dotDot : e ≠ ".."
  no_slash : '/' ∉ e.toList

instance (e : String) : Decidable (PlainElement e) :=
  decidable_of_iff (e ≠ "" ∧ e ≠ "." ∧ e ≠ ".." ∧ '/' ∉ e.toList)
    ⟨fun ⟨h₁, h₂, h₃, h₄⟩ => ⟨h₁, h₂, h₃, h₄⟩, fun h => ⟨h.ne_empty, h.ne_dot, h.ne_dotDot, h.no_slash⟩⟩

/-! ## Splitting a join -/

theorem splitList_ne_nil (l : List Char) (sep : Char) : splitList l sep ≠ [] := by
  cases l with
  | nil => simp [splitList]
  | cons c cs =>
    unfold splitList
    split
    · simp
    · split <;> simp

theorem splitList_of_not_mem {l : List Char} {sep : Char} (h : sep ∉ l) : splitList l sep = [l] := by
  induction l with
  | nil => rfl
  | cons c cs ih =>
    have hc : c ≠ sep := fun hc => h (hc ▸ List.mem_cons_self ..)
    have hcs : sep ∉ cs := fun hm => h (List.mem_cons_of_mem _ hm)
    simp [splitList, hc, ih hcs]

/-- The first piece ends at the first separator. -/
theorem splitList_append_sep {l₁ l₂ : List Char} {sep : Char} (h : sep ∉ l₁) :
    splitList (l₁ ++ sep :: l₂) sep = l₁ :: splitList l₂ sep := by
  induction l₁ with
  | nil => simp [splitList]
  | cons c cs ih =>
    have hc : c ≠ sep := fun hc => h (hc ▸ List.mem_cons_self ..)
    have hcs : sep ∉ cs := fun hm => h (List.mem_cons_of_mem _ hm)
    simp [splitList, hc, ih hcs]

/-- Every piece of a split is made of characters of the text split. -/
theorem mem_of_mem_splitList {l w : List Char} {sep c : Char} (hw : w ∈ splitList l sep) (hc : c ∈ w) :
    c ∈ l := by
  induction l generalizing w with
  | nil =>
    simp only [splitList, List.mem_singleton] at hw
    simp [hw] at hc
  | cons x xs ih =>
    unfold splitList at hw
    split at hw
    · rcases List.mem_cons.mp hw with rfl | hw
      · simp at hc
      · exact List.mem_cons_of_mem _ (ih hw hc)
    -- the first piece is the head character glued to the first piece of the rest
    · rcases hrest : splitList xs sep with _ | ⟨p, ps⟩ <;>
      simp only [hrest, List.mem_cons, List.not_mem_nil, or_false] at hw
      · subst hw
        simp_all
      · rcases hw with rfl | hw
        · rcases List.mem_cons.mp hc with rfl | hc
          · exact List.mem_cons_self ..
          · exact List.mem_cons_of_mem _ (ih (by rw [hrest]; exact List.mem_cons_self ..) hc)
        · exact List.mem_cons_of_mem _ (ih (by rw [hrest]; exact List.mem_cons_of_mem _ hw) hc)

/-- A text is split at a separator into the pieces of both sides. -/
theorem splitList_append_cons (l₁ l₂ : List Char) (sep : Char) :
    splitList (l₁ ++ sep :: l₂) sep = splitList l₁ sep ++ splitList l₂ sep := by
  induction l₁ with
  | nil => simp [splitList]
  | cons c cs ih =>
    by_cases hc : c = sep
    · simp [splitList, hc, ih]
    · obtain ⟨w, ws, hw⟩ := List.exists_cons_of_ne_nil (splitList_ne_nil cs sep)
      simp [splitList, hc, ih, hw]

/-- No piece of a split holds the separator. -/
theorem sep_not_mem_of_mem_splitList {l w : List Char} {sep : Char} (hw : w ∈ splitList l sep) :
    sep ∉ w := by
  induction l generalizing w with
  | nil => simp_all [splitList]
  | cons c cs ih =>
    unfold splitList at hw
    split at hw
    · rcases List.mem_cons.mp hw with rfl | hw
      · simp
      · exact ih hw
    -- the first piece is the head character, which is no separator, glued to the first piece of the rest
    · rename_i hc
      rcases hrest : splitList cs sep with _ | ⟨p, ps⟩ <;>
        simp only [hrest, List.mem_cons, List.not_mem_nil, or_false] at hw
      · subst hw
        simpa using Ne.symm hc
      · rcases hw with rfl | hw
        · have hp := ih (w := p) (by rw [hrest]; exact List.mem_cons_self ..)
          simp [Ne.symm hc, hp]
        · exact ih (by rw [hrest]; exact List.mem_cons_of_mem _ hw)

theorem not_mem_of_mem_split {p e : String} {sep : Char} (he : e ∈ split p sep) : sep ∉ e.toList := by
  obtain ⟨w, hw, rfl⟩ := List.mem_map.mp he
  simpa using sep_not_mem_of_mem_splitList hw

/-- A join splits into the elements of its two sides. -/
theorem split_join (a b : String) : split (a ++ "/" ++ b) '/' = split a '/' ++ split b '/' := by
  simp only [split, String.toList_append, show "/".toList = ['/'] from rfl, List.append_assoc,
    List.singleton_append, splitList_append_cons, List.map_append]

/-- Parts without slashes, joined with slashes, split back into the parts. -/
theorem split_intercalate {parts : List String} (hne : parts ≠ []) (h : ∀ p ∈ parts, '/' ∉ p.toList) :
    split ("/".intercalate parts) '/' = parts := by
  induction parts with
  | nil => contradiction
  | cons p ps ih =>
    have hp := h p (List.mem_cons_self ..)
    cases ps with
    | nil => simp [split, splitList_of_not_mem hp]
    | cons q qs =>
      have hrest := ih (List.cons_ne_nil q qs) fun r hr => h r (List.mem_cons_of_mem _ hr)
      unfold split at hrest ⊢
      rw [String.intercalate_cons_cons, String.toList_append, String.toList_append,
        show "/".toList = ['/'] from rfl, List.append_assoc, List.singleton_append,
        splitList_append_sep hp, List.map_cons, hrest, String.ofList_toList]

/-- Two joins of slash-free parts are equal only when the parts are. -/
theorem intercalate_inj {parts parts' : List String} (hne : parts ≠ []) (hne' : parts' ≠ [])
    (h : ∀ p ∈ parts, '/' ∉ p.toList) (h' : ∀ p ∈ parts', '/' ∉ p.toList)
    (heq : "/".intercalate parts = "/".intercalate parts') : parts = parts' := by
  rw [← split_intercalate hne h, ← split_intercalate hne' h', heq]

/-! ## Cleaning a join -/

/-- Cleaning folds the elements onto the stack one after another. -/
theorem cancelDots_append (rooted : Bool) (stack xs ys : List String) :
    cancelDots rooted stack (xs ++ ys) = cancelDots rooted (cancelDots rooted stack xs) ys := by
  induction xs generalizing stack with
  | nil => rfl
  | cons e es ih =>
    simp only [List.cons_append, cancelDots]
    split
    · exact ih stack
    · split
      · split <;> (try split) <;> exact ih _
      · exact ih _

/-- A join is absolute exactly when its non-empty first side is. -/
theorem startsWith_slash_join {a : String} (b : String) (ha : a ≠ "") :
    (a ++ "/" ++ b).startsWith "/" = a.startsWith "/" := by
  obtain ⟨c, cs, hc⟩ := List.exists_cons_of_ne_nil (fun h => ha (String.toList_inj.mp h))
  have hjoin : (a ++ "/" ++ b).toList = c :: (cs ++ '/' :: b.toList) := by simp [hc]
  rw [Bool.eq_iff_iff, String.startsWith_string_iff, String.startsWith_string_iff, hjoin, hc]
  simp [List.cons_prefix_cons]

/-- Two paths with the same root whose elements cancel to the same stack clean
to one path. -/
theorem cleanPath_congr {x y : String} {rooted : Bool} (hx : x.startsWith "/" = rooted)
    (hy : y.startsWith "/" = rooted)
    (h : cancelDots rooted [] (split x '/') = cancelDots rooted [] (split y '/')) :
    cleanPath x = cleanPath y := by
  simp only [cleanPath, hx, hy, h]

/-- Parts after a non-empty first one are joined with slashes and cleaned. -/
theorem joinPath_cons {dir : String} (parts : List String) (hdir : dir ≠ "") :
    joinPath (dir :: parts) = cleanPath ("/".intercalate (dir :: parts)) := by
  have hempty : dir.isEmpty = false := by simpa using hdir
  simp [joinPath, hempty]

/-! ## Cleaning a join of plain elements -/

/-- Plain elements are pushed as they come, with nothing to cancel. -/
theorem cancelDots_of_plain (rooted : Bool) (stack : List String) {parts : List String}
    (h : ∀ p ∈ parts, PlainElement p) : cancelDots rooted stack parts = parts.reverse ++ stack := by
  induction parts generalizing stack with
  | nil => rfl
  | cons e es ih =>
    have he := h e (List.mem_cons_self ..)
    have hrest := ih (e :: stack) fun p hp => h p (List.mem_cons_of_mem _ hp)
    simp [cancelDots, he.ne_empty, he.ne_dot, he.ne_dotDot, hrest]

/-- A join of parts starts with its first part. -/
theorem toList_intercalate_cons (p : String) (ps : List String) :
    ∃ rest, ("/".intercalate (p :: ps)).toList = p.toList ++ rest := by
  cases ps with
  | nil => exact ⟨[], by simp⟩
  | cons q qs => exact ⟨_, by rw [String.intercalate_cons_cons, String.toList_append, String.toList_append,
      List.append_assoc]⟩

/-- A join whose first part is plain is relative. -/
theorem intercalate_startsWith_slash {p : String} (ps : List String) (hp : PlainElement p) :
    ("/".intercalate (p :: ps)).startsWith "/" = false := by
  obtain ⟨rest, hrest⟩ := toList_intercalate_cons p ps
  obtain ⟨c, cs, hc⟩ := List.exists_cons_of_ne_nil (fun hnil => hp.ne_empty (String.toList_inj.mp hnil))
  have hslash : c ≠ '/' := fun hcs => hp.no_slash (by rw [hc, hcs]; exact List.mem_cons_self ..)
  rw [String.startsWith_string_eq_false_iff, hrest, hc, show "/".toList = ['/'] from rfl]
  simp [List.cons_prefix_cons, Ne.symm hslash]

/-- Plain elements joined with slashes make a clean path. -/
theorem cleanPath_intercalate {parts : List String} (hne : parts ≠ []) (h : ∀ p ∈ parts, PlainElement p) :
    cleanPath ("/".intercalate parts) = "/".intercalate parts := by
  obtain ⟨p, ps, rfl⟩ := List.exists_cons_of_ne_nil hne
  have hp := h p (List.mem_cons_self ..)
  have hbody : ("/".intercalate (p :: ps)).isEmpty = false := by
    obtain ⟨rest, hrest⟩ := toList_intercalate_cons p ps
    cases hempty : ("/".intercalate (p :: ps)).isEmpty
    · rfl
    · have hnil : p.toList ++ rest = [] := by rw [← hrest, String.isEmpty_iff.mp hempty]; rfl
      exact absurd (String.toList_inj.mp (List.append_eq_nil_iff.mp hnil).1) hp.ne_empty
  simp only [cleanPath, intercalate_startsWith_slash ps hp, split_intercalate hne fun q hq => (h q hq).no_slash,
    cancelDots_of_plain false [] h, List.append_nil, List.reverse_reverse, hbody]
  rfl

/-- Plain elements are joined with single slashes and nothing else. -/
theorem joinPath_of_plain {parts : List String} (hne : parts ≠ []) (h : ∀ p ∈ parts, PlainElement p) :
    joinPath parts = "/".intercalate parts := by
  obtain ⟨p, ps, rfl⟩ := List.exists_cons_of_ne_nil hne
  have hp : p.isEmpty = false := by
    cases hempty : p.isEmpty
    · rfl
    · exact absurd (String.isEmpty_iff.mp hempty) (h p (List.mem_cons_self ..)).ne_empty
  simp only [joinPath, List.dropWhile_cons, hp, Bool.false_eq_true, if_false]
  exact cleanPath_intercalate hne h

/-! ## Characters of a clean path -/

/-- A character in neither the separator nor any part is not in their join. -/
theorem not_mem_intercalate {c : Char} {sep : String} {parts : List String} (hsep : c ∉ sep.toList)
    (h : ∀ p ∈ parts, c ∉ p.toList) : c ∉ (sep.intercalate parts).toList := by
  induction parts with
  | nil => simp
  | cons p ps ih =>
    cases ps with
    | nil => simpa using h p (List.mem_cons_self ..)
    | cons q qs =>
      rw [String.intercalate_cons_cons, String.toList_append, String.toList_append]
      simp only [List.mem_append, not_or]
      exact ⟨⟨h p (List.mem_cons_self ..), hsep⟩, ih fun r hr => h r (List.mem_cons_of_mem _ hr)⟩

/-- Cleaning keeps elements it is given; it makes none. -/
theorem mem_cancelDots {rooted : Bool} {stack es : List String} {e : String} (h : e ∈ cancelDots rooted stack es) :
    e ∈ stack ∨ e ∈ es := by
  -- each step keeps the stack, pops it, or pushes the element it reads
  fun_induction cancelDots rooted stack es <;> grind

/-- Cleaning a path writes no character but slashes, dots and those of the path. -/
theorem not_mem_cleanPath {c : Char} (hslash : c ≠ '/') (hdot : c ≠ '.') {p : String} (hp : c ∉ p.toList) :
    c ∉ (cleanPath p).toList := by
  have hbody : c ∉ ("/".intercalate (cancelDots (p.startsWith "/") [] (split p '/')).reverse).toList := by
    refine not_mem_intercalate (by simpa using hslash) fun e he => ?_
    rcases mem_cancelDots (List.mem_reverse.mp he) with h | h
    · cases h
    · -- an element of the path holds characters of the path
      obtain ⟨w, hw, rfl⟩ := List.mem_map.mp h
      intro hc
      exact hp (mem_of_mem_splitList hw (by simpa using hc))
  unfold cleanPath
  dsimp only
  split
  · simpa [hslash] using hbody
  · split
    · simp [hdot]
    · exact hbody

/-- Joining paths writes no character but slashes, dots and those of the parts. -/
theorem not_mem_joinPath {c : Char} (hslash : c ≠ '/') (hdot : c ≠ '.') {parts : List String}
    (h : ∀ p ∈ parts, c ∉ p.toList) : c ∉ (joinPath parts).toList := by
  unfold joinPath
  split
  · simp
  · refine not_mem_cleanPath hslash hdot (not_mem_intercalate (by simpa using hslash) fun p hp => ?_)
    exact h p ((List.dropWhile_sublist _).subset hp)

end UpnpBind.Text
