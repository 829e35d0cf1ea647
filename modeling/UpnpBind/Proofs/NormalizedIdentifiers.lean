import UpnpBind.GoSource.Imports
import UpnpBind.Proofs.Identifier
import UpnpBind.Proofs.SnakeForm

/-!
# Identifiers of normalized names

A raw name made of letters, decimal digits, '_' and '-' of any script,
normalized with the standard tables, gives identifiers where the generated code
expects them (`standard_names_give_identifiers`). Every character of the
normalized name is a letter, a digit or '_': the rule tables bring in only
such characters, separators are dropped, and lower-casing keeps letters. So its
exported identifier goes on with letters and digits after a letter that
upper-casing made, or after an `X`, and its parameter identifier lower-cases that
first letter to a letter.

The exported identifier is not always exported, though: its first character is
the normalized name's first character upper-cased, and a letter without an
upper-case form (such as 'ß', or any letter of a script without case) stays as
it is. The identifier is exported exactly when that upper-cased character is an
upper-case letter or no letter at all, in which case an `X` goes in front;
`sharp_s_name_not_exported` is such a name.
-/

namespace UpnpBind.Naming

open UpnpBind.Text
open UpnpBind.GoSource.ImportUse (isExported)

/-! ## Characters of a normalized name -/

theorem mem_replaceNonEmpty {pat rep : List Char} (h : pat ≠ []) {s : List Char} {d : Char} :
    d ∈ replaceNonEmpty pat rep h s → d ∈ s ∨ d ∈ rep := by
  fun_induction replaceNonEmpty pat rep h s with
  | case1 s _ ih =>
    intro hd
    rcases List.mem_append.mp hd with hd | hd
    · exact .inr hd
    · exact (ih hd).imp_left List.mem_of_mem_drop
  | case2 => simp
  | case3 c cs _ ih =>
    intro hd
    rcases List.mem_cons.mp hd with rfl | hd
    · exact .inl (List.mem_cons_self ..)
    · exact (ih hd).imp_left (List.mem_cons_of_mem _)

/-- A replacement holds characters of the text and of the replacement only. -/
theorem mem_replaceList {s pat rep : List Char} {d : Char} (hd : d ∈ replaceList s pat rep) : d ∈ s ∨ d ∈ rep := by
  unfold replaceList at hd
  split at hd
  · rcases List.mem_append.mp hd with hd | hd
    · exact .inr hd
    · obtain ⟨c, hc, hd⟩ := List.mem_flatMap.mp hd
      rcases List.mem_cons.mp hd with rfl | hd
      · exact .inl hc
      · exact .inr hd
  · exact mem_replaceNonEmpty _ hd

/-- Rewriting by rules brings in no character but those of the replacements. -/
theorem mem_applyRules {rules : List Rule} {s : String} {d : Char} (hd : d ∈ (applyRules rules s).toList) :
    d ∈ s.toList ∨ ∃ r ∈ rules, d ∈ r.replacement.toList := by
  induction rules generalizing s with
  | nil => exact .inl hd
  | cons r rs ih =>
    rw [applyRules, List.foldl_cons] at hd
    rcases ih hd with hd | ⟨r', hr', hd⟩
    · rcases mem_replaceList (by simpa [replaceAll] using hd) with hd | hd
      · exact .inl hd
      · exact .inr ⟨r, List.mem_cons_self .., hd⟩
    · exact .inr ⟨r', List.mem_cons_of_mem _ hr', hd⟩

theorem vendorRules_letters : ∀ r ∈ vendorRules, ∀ d ∈ r.replacement.toList, isLetter d = true := by
  simpa using (by decide +kernel : vendorRules.all fun r => r.replacement.toList.all isLetter)

theorem acronymRules_identParts : ∀ r ∈ acronymRules, ∀ d ∈ r.replacement.toList, identPart d = true := by
  simpa using (by decide +kernel : acronymRules.all fun r => r.replacement.toList.all identPart)

/-- A raw character of a name the standard tables normalize: a letter, a decimal
digit, '_' or '-'. -/
def RawNameChar (c : Char) : Prop := isLetter c = true ∨ isDecimalDigit c = true ∨ c = '_' ∨ c = '-'

instance : DecidablePred RawNameChar := fun _ => inferInstanceAs (Decidable (_ ∨ _ ∨ _ ∨ _))

/-- With the standard tables, every character of the normalized name of a raw
name of letters, digits, '_' and '-' is a letter, a digit or '_'. -/
theorem identPart_of_mem_normalize {raw : String} (hraw : ∀ c ∈ raw.toList, RawNameChar c) {d : Char}
    (hd : d ∈ (Normalizer.standard.normalize raw).toList) : identPart d = true := by
  -- after the vendor rules: raw characters or letters
  have hvendor : ∀ c ∈ (applyRules vendorRules raw).toList, RawNameChar c := by
    intro c hc
    rcases mem_applyRules hc with hc | ⟨r, hr, hc⟩
    · exact hraw c hc
    · exact .inl (vendorRules_letters r hr c hc)
  -- after dropping separators: letters and digits
  have hdrop : ∀ c ∈ (dropChars (applyRules vendorRules raw) ['_', '-']).toList,
      isLetter c = true ∨ isDecimalDigit c = true := by
    intro c hc
    simp only [dropChars, dropAll, String.toList_ofList, List.mem_filter] at hc
    rcases hvendor c hc.1 with h | h | rfl | rfl
    · exact .inl h
    · exact .inr h
    · simp at hc
    · simp at hc
  -- after the acronym rules: characters an identifier may hold
  have hacronym : ∀ c ∈ (applyRules acronymRules (dropChars (applyRules vendorRules raw) ['_', '-'])).toList,
      identPart c = true := by
    intro c hc
    rcases mem_applyRules hc with hc | ⟨r, hr, hc⟩
    · exact identPart_of_letter_or_digit (hdrop c hc)
    · exact acronymRules_identParts r hr c hc
  rcases mem_splitCase hd with rfl | ⟨c, hc, rfl⟩
  · rfl
  · by_cases hup : isUpper c = true
    · rw [if_pos hup]
      exact identPart_of_letter_or_digit (.inl (isLetter_toLower (isLetter_of_isUpper hup)))
    · rw [if_neg hup]
      exact hacronym c hc

/-! ## Exported identifiers -/

/-- A name that does not start with '_' has the first character upper-cased in
front of its joined words. -/
theorem words_eq_toUpper_cons {name : String} {f : Char} {rest : List Char} (hname : name.toList = f :: rest)
    (hf : f ≠ '_') : ∃ cs, (splitList name.toList '_').flatMap capitalize = toUpper f :: cs := by
  rw [hname]
  simp only [splitList, if_neg hf]
  split <;> simp [capitalize]

/-- The exported identifier of a name that does not start with '_' is exported
exactly when the name's first character upper-cases to an upper-case letter or
to no letter at all. -/
theorem isExported_exportedName_iff {name : String} (hname : name.toList.head? ≠ some '_') :
    isExported (exportedName name) = true ↔
      ∀ f, name.toList.head? = some f → isLetter (toUpper f) = true → isUpper (toUpper f) = true := by
  rcases hchars : name.toList with _ | ⟨f, rest⟩
  · -- the empty name is exported as `X`
    have : exportedName name = "X" := by simp [exportedName, hchars, splitList, capitalize]
    simp only [this, List.head?_nil, reduceCtorEq, false_implies, implies_true, iff_true]
    decide
  · have hf : f ≠ '_' := fun h => hname (by simp [hchars, h])
    obtain ⟨cs, hwords⟩ := words_eq_toUpper_cons hchars hf
    have htoList := exportedName_toList_of_joined hwords
    simp only [List.head?_cons, Option.some.injEq, forall_eq']
    by_cases hl : isLetter (toUpper f) = true
    · simp [isExported, htoList, hl]
    · simp [isExported, htoList, hl, isUpper]

/-! ## Names normalized with the standard tables -/

/-- A raw name of letters, decimal digits, '_' and '-', normalized with the
standard tables, gives an exported identifier that is an identifier, and that is
exported exactly when the normalized name's first character upper-cases to an
upper-case letter or to no letter; and a parameter identifier that is an
identifier and neither a keyword nor a reserved name. -/
theorem standard_names_give_identifiers (raw : String) (hraw : ∀ c ∈ raw.toList, RawNameChar c) :
    isIdentifier (exportedName (Normalizer.standard.normalize raw)) = true ∧
      (isExported (exportedName (Normalizer.standard.normalize raw)) = true ↔
        ∀ f, (Normalizer.standard.normalize raw).toList.head? = some f →
          isLetter (toUpper f) = true → isUpper (toUpper f) = true) ∧
      isIdentifier (parameterName (Normalizer.standard.normalize raw)) = true ∧
      keywords.contains (parameterName (Normalizer.standard.normalize raw)) = false ∧
      reservedNames.contains (parameterName (Normalizer.standard.normalize raw)) = false := by
  have hparts : ∀ d ∈ (Normalizer.standard.normalize raw).toList, identPart d = true :=
    fun d hd => identPart_of_mem_normalize hraw hd
  exact ⟨isIdentifier_exportedName_of_identParts hparts,
    isExported_exportedName_iff (head?_normalize_ne standard_acronymsLeadPlain raw),
    isIdentifier_parameterName_of_identParts hparts, parameterName_not_reserved _⟩

theorem standard_names_of_wlan_groesse :
    (∀ c ∈ "X_AVM-DE_WLANGröße".toList, RawNameChar c) ∧
      isIdentifier (exportedName (Normalizer.standard.normalize "X_AVM-DE_WLANGröße")) = true ∧
      isIdentifier (parameterName (Normalizer.standard.normalize "X_AVM-DE_WLANGröße")) = true :=
  have hraw : ∀ c ∈ "X_AVM-DE_WLANGröße".toList, RawNameChar c := by
    simpa using (by decide +kernel : "X_AVM-DE_WLANGröße".toList.all (fun c => decide (RawNameChar c)) = true)
  have h := standard_names_give_identifiers _ hraw
  ⟨hraw, h.1, h.2.2.1⟩

/-- "ß" has no upper-case form of its own, so the exported identifier of its
normalized name starts with it and is not exported. -/
theorem sharp_s_name_not_exported :
    (∀ c ∈ "ß".toList, RawNameChar c) ∧ Normalizer.standard.normalize "ß" = "ß" ∧ exportedName "ß" = "ß" ∧
      isExported (exportedName (Normalizer.standard.normalize "ß")) = false := by
  refine ⟨?_, by decide +kernel, by decide +kernel, by decide +kernel⟩
  simpa using (by decide +kernel : "ß".toList.all (fun c => decide (RawNameChar c)) = true)

end UpnpBind.Naming
