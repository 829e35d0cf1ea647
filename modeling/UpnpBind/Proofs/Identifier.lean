import UpnpBind.Naming.Identifier
import UpnpBind.Proofs.SlashPath
import UpnpBind.Proofs.CaseMappings

/-!
# Names written where the generated code expects identifiers

The templates write three derived names at identifier positions: the exported
identifier of a normalized name (`exportedName`), its parameter identifier
(`parameterName`), and the response type name of a raw action name
(`responseTypeName`). An identifier starts with a letter or an underscore, goes
on with letters, digits and underscores, and is no keyword (`isIdentifier`).

None of the three filters what it is given: each keeps every character of the
name other than the separators it drops, so a name holding a blank gives no
identifier. Names made of letters, digits and underscores of any script always
give identifiers (`isIdentifier_exportedName_of_identParts`,
`isIdentifier_parameterName_of_identParts`), and so does an action named by
ASCII letters, digits, underscores and hyphens that starts with a letter
(`isIdentifier_responseTypeName`). The exported identifier gets an `X` in front
where it would not start with a letter, and its first letter is upper-cased,
which never gives an ASCII lower-case letter, so it is never a keyword. A
parameter identifier that would be a keyword or a reserved name gets an
underscore, so it is never one, whatever the name (`parameterName_not_reserved`).
-/

namespace UpnpBind.Naming

open UpnpBind.Text

/-- A character an identifier may start with: a letter or an underscore. -/
def identStart (c : Char) : Bool := isLetter c || c == '_'

/-- A character an identifier may hold after its first: a letter, an
underscore or a decimal digit. -/
def identPart (c : Char) : Bool := identStart c || isDecimalDigit c

/-- An identifier of the generated code: a character it may start with, then
characters it may hold, and not a keyword. -/
def isIdentifier (s : String) : Bool :=
  !keywords.contains s &&
    match s.toList with
    | [] => false
    | c :: cs => identStart c && cs.all identPart

/-- An ASCII letter, digit or underscore. -/
def isAsciiWordChar (c : Char) : Bool := c.toNat < 128 && identPart c

theorem isIdentifier_of_cons {s : String} {c : Char} {cs : List Char} (hs : s.toList = c :: cs)
    (hstart : identStart c = true) (hpart : ∀ d ∈ cs, identPart d = true) (hkw : keywords.contains s = false) :
    isIdentifier s = true := by
  simp only [isIdentifier, hkw, hs]
  simpa [hstart] using hpart

theorem exists_cons_of_isIdentifier {s : String} (h : isIdentifier s = true) :
    ∃ c cs, s.toList = c :: cs ∧ identStart c = true ∧ ∀ d ∈ cs, identPart d = true := by
  unfold isIdentifier at h
  cases hs : s.toList with
  | nil => simp [hs] at h
  | cons c cs =>
    simp only [hs, Bool.and_eq_true, List.all_eq_true] at h
    exact ⟨c, cs, rfl, h.2.1, h.2.2⟩

theorem identPart_of_identStart {c : Char} (h : identStart c = true) : identPart c = true := by
  simp [identPart, h]

/-- Every character of an identifier is one an identifier may hold. -/
theorem identParts_of_isIdentifier {s : String} (h : isIdentifier s = true) : ∀ c ∈ s.toList, identPart c = true := by
  obtain ⟨c, cs, hs, hstart, hparts⟩ := exists_cons_of_isIdentifier h
  intro d hd
  rw [hs, List.mem_cons] at hd
  rcases hd with rfl | hd
  · exact identPart_of_identStart hstart
  · exact hparts d hd

theorem not_mem_of_identParts {s : String} (h : ∀ c ∈ s.toList, identPart c = true) {c : Char}
    (hc : identPart c = false) : c ∉ s.toList :=
  fun hm => absurd (h c hm) (by simp [hc])

/-! ## ASCII characters -/

theorem identPart_of_isAsciiWordChar {c : Char} (h : isAsciiWordChar c = true) : identPart c = true := by
  simp only [isAsciiWordChar, Bool.and_eq_true] at h
  exact h.2

/-! ## Keywords and reserved names -/

theorem keywords_lower : keywords.all (fun k => k.toList.all fun c => 'a' ≤ c && c ≤ 'z') = true := by
  decide +kernel

theorem reservedNames_lower : reservedNames.all (fun k => k.toList.all fun c => 'a' ≤ c && c ≤ 'z') = true := by
  decide +kernel

/-- A text with a character other than a lower-case ASCII letter is none of a
list of lower-case words. -/
theorem contains_eq_false_of_not_lower {L : List String}
    (hL : L.all (fun k => k.toList.all fun c => 'a' ≤ c && c ≤ 'z') = true)
    {s : String} {c : Char} (hc : c ∈ s.toList) (hlow : ¬('a' ≤ c ∧ c ≤ 'z')) : L.contains s = false := by
  simp only [List.all_eq_true, Bool.and_eq_true, decide_eq_true_eq] at hL
  cases h : L.contains s
  · rfl
  · exact absurd (hL s (List.contains_iff_mem.mp h) c hc) hlow

/-! ## Exported identifiers -/

theorem mem_capitalize {w : List Char} {d : Char} (h : d ∈ capitalize w) : ∃ c ∈ w, d = c ∨ d = toUpper c := by
  cases w with
  | nil => simp [capitalize] at h
  | cons c cs =>
    rcases List.mem_cons.mp h with rfl | h
    · exact ⟨c, List.mem_cons_self .., Or.inr rfl⟩
    · exact ⟨d, List.mem_cons_of_mem _ h, Or.inl rfl⟩

/-- Capitalised words start with an upper-cased character of one of them. -/
theorem head_flatMap_capitalize {ws : List (List Char)} {d : Char} {ds : List Char}
    (h : ws.flatMap capitalize = d :: ds) : ∃ c, d = toUpper c ∧ ∃ w ∈ ws, c ∈ w := by
  induction ws with
  | nil => simp at h
  | cons w ws ih =>
    cases w with
    | nil =>
      obtain ⟨c, hc, w', hw', hcw⟩ := ih (by simpa [capitalize] using h)
      exact ⟨c, hc, w', List.mem_cons_of_mem _ hw', hcw⟩
    | cons c cs =>
      simp only [List.flatMap_cons, capitalize, List.cons_append, List.cons.injEq] at h
      exact ⟨c, h.1.symm, c :: cs, List.mem_cons_self .., List.mem_cons_self ..⟩

theorem identPart_of_letter_or_digit {c : Char} (h : isLetter c = true ∨ isDecimalDigit c = true) :
    identPart c = true := by
  rcases h with h | h <;> simp [identPart, identStart, h]

/-- A character of a word of a name whose characters an identifier may hold is a
letter or a digit. -/
theorem letter_or_digit_of_mem_words {name : String} (hname : ∀ d ∈ name.toList, identPart d = true)
    {w : List Char} (hw : w ∈ splitList name.toList '_') {c : Char} (hc : c ∈ w) :
    isLetter c = true ∨ isDecimalDigit c = true := by
  have hne : c ≠ '_' := fun h => sep_not_mem_of_mem_splitList hw (h ▸ hc)
  have := hname c (mem_of_mem_splitList hw hc)
  simp only [identPart, identStart, Bool.or_eq_true, beq_iff_eq] at this
  rcases this with (h | h) | h
  · exact .inl h
  · exact absurd h hne
  · exact .inr h

theorem exportedName_toList_of_joined {name : String} {c : Char} {cs : List Char}
    (h : (splitList name.toList '_').flatMap capitalize = c :: cs) :
    (exportedName name).toList = if isLetter c then c :: cs else 'X' :: c :: cs := by
  unfold exportedName
  rw [h]
  split <;> simp_all

/-- The exported identifier of a name whose characters an identifier may hold is
an identifier: its words are letters and digits, and stay so when capitalised. -/
theorem isIdentifier_exportedName_of_identParts {name : String} (hname : ∀ d ∈ name.toList, identPart d = true) :
    isIdentifier (exportedName name) = true := by
  rcases hwords : (splitList name.toList '_').flatMap capitalize with _ | ⟨c, cs⟩
  · simp only [exportedName, hwords]
    decide
  have hmem : ∀ d ∈ c :: cs, identPart d = true := by
    intro d hd
    obtain ⟨w, hw, hdw⟩ := List.mem_flatMap.mp (hwords ▸ hd)
    obtain ⟨c', hc'w, rfl | rfl⟩ := mem_capitalize hdw
    · exact identPart_of_letter_or_digit (letter_or_digit_of_mem_words hname hw hc'w)
    · exact identPart_of_letter_or_digit (toUpper_letter_or_digit (letter_or_digit_of_mem_words hname hw hc'w))
  obtain ⟨c₀, rfl, -⟩ := head_flatMap_capitalize hwords
  have htoList := exportedName_toList_of_joined hwords
  -- an upper-cased first letter is no keyword, and neither is a name after an `X`
  split at htoList
  · rename_i hl
    refine isIdentifier_of_cons htoList (by simp [identStart, hl]) (fun d hd => hmem d (.tail _ hd)) ?_
    exact contains_eq_false_of_not_lower keywords_lower (by simp [htoList]) (toUpper_not_asciiLower c₀)
  · refine isIdentifier_of_cons htoList (by decide) hmem ?_
    exact contains_eq_false_of_not_lower keywords_lower (c := 'X') (by simp [htoList]) (by decide)

-- a name with a blank keeps it in its exported identifier, which is then no identifier
example : isIdentifier (exportedName "get info") = false := by
  decide +kernel

/-! ## Parameter identifiers -/

/-- Escaping with an underscore keeps a text out of the keywords and reserved
names: the underscore is in none of them. -/
theorem escape_not_reserved (s : String) :
    keywords.contains (if (keywords.contains s || reservedNames.contains s) = true then s ++ "_" else s) = false ∧
      reservedNames.contains
        (if (keywords.contains s || reservedNames.contains s) = true then s ++ "_" else s) = false := by
  have hu : '_' ∈ (s ++ "_").toList := by simp
  split
  · exact ⟨contains_eq_false_of_not_lower keywords_lower hu (by decide),
      contains_eq_false_of_not_lower reservedNames_lower hu (by decide)⟩
  · simp_all

/-- A parameter identifier is never a keyword or a reserved name. -/
theorem parameterName_not_reserved (name : String) :
    keywords.contains (parameterName name) = false ∧ reservedNames.contains (parameterName name) = false :=
  escape_not_reserved _

/-- The parameter identifier of a name whose exported identifier starts with a
character that lower-cases to a letter, and goes on with characters an
identifier may hold, is an identifier. -/
theorem isIdentifier_parameterName_of_cons {name : String} {c : Char} {cs : List Char}
    (hcs : (exportedName name).toList = c :: cs) (hstart : identStart (toLower c) = true)
    (hpart : ∀ d ∈ cs, identPart d = true) : isIdentifier (parameterName name) = true := by
  have hkw := (parameterName_not_reserved name).1
  unfold parameterName at hkw ⊢
  simp only [hcs] at hkw ⊢
  -- the lower-cased identifier, with an underscore where it was a keyword or reserved
  split
  · rename_i h
    rw [if_pos h] at hkw
    have hs : (String.ofList (toLower c :: cs) ++ "_").toList = toLower c :: (cs ++ ['_']) := by simp
    refine isIdentifier_of_cons hs hstart (fun d hd => ?_) hkw
    rcases List.mem_append.mp hd with hd | hd
    · exact hpart d hd
    · rw [List.mem_singleton.mp hd]
      rfl
  · rename_i h
    rw [if_neg h] at hkw
    exact isIdentifier_of_cons (by simp) hstart hpart hkw

/-- An exported identifier starts with a letter: an upper-cased one, or an `X`. -/
theorem isLetter_of_exportedName_cons {name : String} {c : Char} {cs : List Char}
    (h : (exportedName name).toList = c :: cs) : isLetter c = true := by
  rcases hwords : (splitList name.toList '_').flatMap capitalize with _ | ⟨c', cs'⟩
  · have hX : (exportedName name).toList = ['X'] := by simp [exportedName, hwords]
    rw [hX, List.cons.injEq] at h
    rw [← h.1]
    decide
  · rw [exportedName_toList_of_joined hwords] at h
    split at h
    · rename_i hl
      rw [List.cons.injEq] at h
      rwa [← h.1]
    · rw [List.cons.injEq] at h
      rw [← h.1]
      decide

theorem isIdentifier_parameterName_of_identParts {name : String} (hname : ∀ d ∈ name.toList, identPart d = true) :
    isIdentifier (parameterName name) = true := by
  have hexp := isIdentifier_exportedName_of_identParts hname
  rcases hcs : (exportedName name).toList with _ | ⟨c, cs⟩
  · simp [isIdentifier, hcs] at hexp
  · simp only [isIdentifier, hcs, Bool.and_eq_true, List.all_eq_true] at hexp
    exact isIdentifier_parameterName_of_cons hcs
      (by simp [identStart, isLetter_toLower (isLetter_of_exportedName_cons hcs)]) hexp.2.2

/-! ## Response type names -/

theorem identPart_of_mem_response : ∀ d ∈ "Response".toList, identPart d = true :=
  List.all_eq_true.mp (by decide +kernel)

theorem isIdentifier_responseTypeName {action : String} (h : ∀ c ∈ action.toList, isAsciiWordChar c = true ∨ c = '-')
    {c : Char} {cs : List Char} (hcs : action.toList = c :: cs) (hc : isLetter c = true) :
    isIdentifier (responseTypeName action) = true := by
  have hne : c ≠ '-' ∧ c ≠ '_' :=
    ⟨by rintro rfl; exact absurd hc (by decide), by rintro rfl; exact absurd hc (by decide)⟩
  have htoList : (responseTypeName action).toList =
      c :: (cs.filter fun d => !(['-', '_'].contains d)) ++ "Response".toList := by
    simp [responseTypeName, dropChars, dropAll, hcs, hne.1, hne.2]
  refine isIdentifier_of_cons htoList (by simp [identStart, hc]) (fun d hd => ?_) ?_
  · rcases List.mem_append.mp hd with hd | hd
    -- a kept character of the action is an ASCII word character, as it is no hyphen
    · obtain ⟨hdcs, hdk⟩ := List.mem_filter.mp hd
      rcases h d (hcs ▸ List.mem_cons_of_mem _ hdcs) with hw | rfl
      · exact identPart_of_isAsciiWordChar hw
      · exact absurd hdk (by decide)
    · exact identPart_of_mem_response d hd
  · exact contains_eq_false_of_not_lower keywords_lower (c := 'R') (by rw [htoList]; simp) (by decide)

end UpnpBind.Naming
