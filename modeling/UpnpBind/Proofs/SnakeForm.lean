import Mathlib.Data.List.DropRight
import UpnpBind.Naming.Normalize
import UpnpBind.Proofs.CaseMappings
import UpnpBind.Proofs.Utf8Forms

/-!
# The snake form of normalized names

Normalizing ends with case splitting: each upper-case letter is lower-cased with
an underscore before it unless it starts the text or follows an underscore, an
underscore that starts the text or follows one is skipped, and trailing
underscores are dropped. Whatever it reads, its output is in snake form
(`splitCase_snakeForm`): no "__", no '_' at the end, and no upper-case letter
that lower-cases to another character. The loop remembers the last character it
wrote, and the step lemma `isChain_splitCaseFrom` keeps that character and the
output after it free of double underscores.

The front is another matter. An underscore that starts the text is skipped
without being remembered, so an upper-case letter right after it still gets an
underscore before it: an acronym rule whose replacement starts with '_' puts one
at the front of the name (`normalize_leads_with_underscore`). Separators are
dropped before the acronym rules run, so where every acronym replacement starts
with a character other than '_', as in the standard tables, the text the loop
reads does not start with '_' and neither does the name (`head?_normalize_ne`).

None of this needs well-formed text. Normalizing a byte string reads the bytes
as characters only for case splitting, and writes the UTF-8 form of what case
splitting gives; the separators and the rules work on bytes, and the byte of '_'
stands only for '_'. So every byte string normalizes to the UTF-8 form of a name
in snake form, which does not start with '_' when no acronym replacement starts
with that byte (`normalize_bytes_snake_form`).
-/

namespace UpnpBind.Naming

open UpnpBind.Text

/-- Two adjacent characters that do not make a double underscore. -/
def NoDoubleUnderscore (a b : Char) : Prop := ¬(a = '_' ∧ b = '_')

/-- The canonical snake form of a name: no "__", no '_' at the end, and no
upper-case letter whose lower-case form differs from it. -/
structure SnakeForm (s : String) : Prop where
  no_double : contains s "__" = false
  no_trailing : s.toList.getLast? ≠ some '_'
  lowered : ∀ c ∈ s.toList, isUpper c = true → toLower c = c

theorem ne_underscore_of_isUpper {c : Char} (h : isUpper c = true) : c ≠ '_' := by
  rintro rfl
  exact absurd h (by decide)

/-- A text whose adjacent characters are never both '_' holds no "__". -/
theorem containsList_underscores_of_isChain {l : List Char} (h : l.IsChain NoDoubleUnderscore) :
    containsList l ['_', '_'] = false := by
  induction l with
  | nil => rfl
  | cons c cs ih =>
    rw [containsList, ih h.tail, Bool.or_false]
    cases cs with
    | nil => simp [List.isPrefixOf]
    | cons c' cs =>
      have hpair : ¬(c = '_' ∧ c' = '_') := (List.isChain_cons_cons.mp h).1
      simp only [List.isPrefixOf, Bool.and_eq_false_iff, beq_eq_false_iff_ne]
      by_cases hc : c = '_'
      · exact .inr (.inl fun h' => hpair ⟨hc, h'.symm⟩)
      · exact .inl (Ne.symm hc)

/-! ## The case-splitting loop -/

/-- Each step keeps the remembered character and the output after it free of
double underscores: a written '_' follows a character other than '_', and a
lower-cased letter is never '_'. -/
theorem isChain_splitCaseFrom (first : Bool) (last : Char) (cs : List Char) :
    (last :: splitCaseFrom first last cs).IsChain NoDoubleUnderscore := by
  induction cs generalizing first last with
  | nil => simp [splitCaseFrom]
  | cons c cs ih =>
    simp only [splitCaseFrom]
    split
    · rename_i hup
      have hl : toLower c ≠ '_' := toLower_ne_underscore (ne_underscore_of_isUpper hup)
      split
      · rename_i hsep
        have hlast : last ≠ '_' := (by simpa using hsep : first = false ∧ last ≠ '_').2
        rw [List.cons_append, List.cons_append, List.nil_append]
        exact List.isChain_cons_cons.mpr ⟨fun h => hlast h.1, List.isChain_cons_cons.mpr ⟨fun h => hl h.2, ih ..⟩⟩
      · rw [List.singleton_append]
        exact List.isChain_cons_cons.mpr ⟨fun h => hl h.2, ih ..⟩
    · split
      · exact ih ..
      · rename_i hskip
        -- a '_' is written only after a character other than '_'
        refine List.isChain_cons_cons.mpr ⟨fun ⟨hl, hc⟩ => ?_, ih ..⟩
        simp [hl, hc] at hskip

/-- A character of the output is '_' or a character read, lower-cased if it is upper case. -/
theorem mem_splitCaseFrom {first : Bool} {last d : Char} {cs : List Char} (hd : d ∈ splitCaseFrom first last cs) :
    d = '_' ∨ ∃ c ∈ cs, d = if isUpper c then toLower c else c := by
  induction cs generalizing first last with
  | nil => simp [splitCaseFrom] at hd
  | cons c cs ih =>
    have hrest : ∀ {f l}, d ∈ splitCaseFrom f l cs → d = '_' ∨ ∃ c' ∈ c :: cs, d = if isUpper c' then toLower c' else c' :=
      fun hd => (ih hd).imp_right fun ⟨c', hc', h⟩ => ⟨c', List.mem_cons_of_mem _ hc', h⟩
    simp only [splitCaseFrom] at hd
    split at hd
    · rename_i hup
      rcases List.mem_append.mp hd with hd | hd
      · have : d = '_' ∨ d = toLower c := by split at hd <;> simp_all
        exact this.imp_right fun h => ⟨c, List.mem_cons_self .., by simp [hup, h]⟩
      · exact hrest hd
    · rename_i hup
      split at hd
      · exact hrest hd
      · rcases List.mem_cons.mp hd with rfl | hd
        · exact .inr ⟨d, List.mem_cons_self .., by simp [hup]⟩
        · exact hrest hd

/-- The loop starts its output with a character other than '_' when the text does. -/
theorem head?_splitCaseFrom (last : Char) {cs : List Char} (h : cs.head? ≠ some '_') :
    (splitCaseFrom true last cs).head? ≠ some '_' := by
  cases cs with
  | nil => simp [splitCaseFrom]
  | cons c cs =>
    have hc : c ≠ '_' := fun hc => h (by simp [hc])
    simp only [splitCaseFrom]
    split
    · rename_i hup
      simpa using toLower_ne_underscore (ne_underscore_of_isUpper hup)
    · simp [hc]

theorem splitCase_toList (s : String) :
    (splitCase s).toList = (splitCaseFrom true (Char.ofNat 0) s.toList).rdropWhile (· == '_') := by
  simp [splitCase, trimRightChar, trimRightList, List.rdropWhile]

theorem splitCase_isPrefix (s : String) : (splitCase s).toList <+: splitCaseFrom true (Char.ofNat 0) s.toList := by
  rw [splitCase_toList]
  exact List.rdropWhile_prefix _ _

/-- A character of a case-split text is '_' or a character of the text, lower-cased
if it is upper case. -/
theorem mem_splitCase {s : String} {d : Char} (hd : d ∈ (splitCase s).toList) :
    d = '_' ∨ ∃ c ∈ s.toList, d = if isUpper c then toLower c else c :=
  mem_splitCaseFrom ((splitCase_isPrefix s).subset hd)

/-- Case splitting gives the snake form, whatever text it reads. -/
theorem splitCase_snakeForm (s : String) : SnakeForm (splitCase s) := by
  have hpre := splitCase_isPrefix s
  refine ⟨?_, ?_, ?_⟩
  · -- the output is a chain without double underscores, and so is its trimmed prefix
    have hchain := (isChain_splitCaseFrom true (Char.ofNat 0) s.toList).tail
    have htrimmed := List.IsChain.infix hchain hpre.isInfix
    exact containsList_underscores_of_isChain htrimmed
  · -- trimming leaves a last character other than '_'
    rw [splitCase_toList]
    intro hlast
    have hne : (splitCaseFrom true (Char.ofNat 0) s.toList).rdropWhile (· == '_') ≠ [] := by
      rintro h
      simp [h] at hlast
    have hnot := List.rdropWhile_last_not _ _ hne
    rw [List.getLast?_eq_some_getLast hne, Option.some.injEq] at hlast
    simp [hlast] at hnot
  · intro d hd hup
    rcases mem_splitCase hd with rfl | ⟨c, -, rfl⟩
    · exact absurd hup (by decide)
    · by_cases hc : isUpper c = true
      · rw [if_pos hc] at hup ⊢
        exact toLower_toLower_of_isUpper hup
      · rw [if_neg hc] at hup
        exact absurd hup hc

/-- Case splitting starts its output with a character other than '_' when the text does. -/
theorem head?_splitCase {s : String} (h : s.toList.head? ≠ some '_') : (splitCase s).toList.head? ≠ some '_' := by
  rw [splitCase_toList]
  obtain ⟨rest, hrest⟩ := List.rdropWhile_prefix (· == '_') (splitCaseFrom true (Char.ofNat 0) s.toList)
  intro hhead
  cases hT : (splitCaseFrom true (Char.ofNat 0) s.toList).rdropWhile (· == '_') with
  | nil => simp [hT] at hhead
  | cons a r =>
    rw [hT] at hhead hrest
    apply head?_splitCaseFrom (Char.ofNat 0) h
    rw [← hrest]
    simpa using hhead

/-! ## The front of the text the loop reads -/

/-- A replacement of a non-empty pattern starts with the text's first element or
the replacement's. -/
theorem head?_replaceNonEmpty_ne {α : Type} [BEq α] [LawfulBEq α] {pat rep s : List α} (h : pat ≠ []) {a d : α}
    (hs : s.head? ≠ some a) (hd : rep.head? = some d) (hda : d ≠ a) : (replaceNonEmpty pat rep h s).head? ≠ some a := by
  obtain ⟨rep', rfl⟩ : ∃ rep', rep = d :: rep' := by
    cases rep with
    | nil => simp at hd
    | cons d' rep' => exact ⟨rep', by simpa using hd⟩
  rw [replaceNonEmpty]
  split
  · simpa using hda
  · split
    · simp
    · simpa using hs

/-- A replacement starts with the text's first character or the replacement's. -/
theorem head?_replaceList_ne {s pat rep : List Char} {c : Char} (hs : s.head? ≠ some c)
    (hrep : ∃ d, rep.head? = some d ∧ d ≠ c) : (replaceList s pat rep).head? ≠ some c := by
  obtain ⟨d, hd, hdc⟩ := hrep
  unfold replaceList
  split
  · cases rep with
    | nil => simp at hd
    | cons d' rep' => simpa [show d' = d by simpa using hd] using hdc
  · exact head?_replaceNonEmpty_ne _ hs hd hdc

/-- Rules whose replacements start with a character other than `c` keep `c` out
of the front of a text that does not start with it. -/
theorem head?_applyRules_ne {rules : List Rule} {c : Char}
    (hrules : ∀ r ∈ rules, ∃ d, r.replacement.toList.head? = some d ∧ d ≠ c) {s : String}
    (hs : s.toList.head? ≠ some c) : (applyRules rules s).toList.head? ≠ some c := by
  induction rules generalizing s with
  | nil => exact hs
  | cons r rs ih =>
    rw [applyRules, List.foldl_cons]
    refine ih (fun r' hr' => hrules r' (List.mem_cons_of_mem _ hr')) ?_
    rw [replaceAll, String.toList_ofList]
    exact head?_replaceList_ne hs (hrules r (List.mem_cons_self ..))

theorem head?_dropChars_ne (s : String) : (dropChars s ['_', '-']).toList.head? ≠ some '_' := by
  intro h
  have := List.mem_of_mem_head? h
  simp [dropChars, dropAll] at this

/-- Whether every acronym replacement starts with a character other than '_'. -/
def Normalizer.acronymsLeadPlain (n : Normalizer) : Bool :=
  n.acronyms.all fun r => r.replacement.toList.head?.any (· != '_')

theorem Normalizer.lead_of_acronymsLeadPlain {n : Normalizer} (h : n.acronymsLeadPlain = true) :
    ∀ r ∈ n.acronyms, ∃ d, r.replacement.toList.head? = some d ∧ d ≠ '_' := by
  intro r hr
  obtain ⟨d, hd, hne⟩ := (Option.any_eq_true _ _).mp (List.all_eq_true.mp h r hr)
  exact ⟨d, hd, by simpa using hne⟩

/-- Where every acronym replacement starts with a character other than '_', no
normalized name starts with '_'. -/
theorem head?_normalize_ne {n : Normalizer} (h : n.acronymsLeadPlain = true) (raw : String) :
    (n.normalize raw).toList.head? ≠ some '_' :=
  head?_splitCase (head?_applyRules_ne (Normalizer.lead_of_acronymsLeadPlain h) (head?_dropChars_ne _))

theorem standard_acronymsLeadPlain : Normalizer.standard.acronymsLeadPlain = true := by
  decide +kernel

/-! ## Byte strings -/

/-- Whether every acronym replacement starts with a byte other than that of '_'. -/
def ByteNormalizer.acronymsLeadPlain (n : ByteNormalizer) : Bool :=
  n.acronyms.all fun r => r.replacement.head?.any (· != 0x5F)

theorem ByteNormalizer.lead_of_acronymsLeadPlain {n : ByteNormalizer} (h : n.acronymsLeadPlain = true) :
    ∀ r ∈ n.acronyms, ∃ d, r.replacement.head? = some d ∧ d ≠ 0x5F := by
  intro r hr
  obtain ⟨d, hd, hne⟩ := (Option.any_eq_true _ _).mp (List.all_eq_true.mp h r hr)
  exact ⟨d, hd, by simpa using hne⟩

/-- Rules whose replacements start with a character other than '_' start with a
byte other than that of '_'. -/
theorem Normalizer.bytes_acronymsLeadPlain {n : Normalizer} (h : n.acronymsLeadPlain = true) :
    n.bytes.acronymsLeadPlain = true := by
  simp only [ByteNormalizer.acronymsLeadPlain, Normalizer.bytes, List.all_map, List.all_eq_true]
  intro r hr
  obtain ⟨d, hd, hne⟩ := Normalizer.lead_of_acronymsLeadPlain h r hr
  obtain ⟨cs, hcs⟩ : ∃ cs, r.replacement.toList = d :: cs := by
    cases hr' : r.replacement.toList with
    | nil => simp [hr'] at hd
    | cons d' cs => exact ⟨cs, by simp_all⟩
  obtain ⟨b, t, hbt⟩ := List.exists_cons_of_ne_nil (utf8EncodeChar_ne_nil d)
  have hb : b ≠ 0x5F := by
    rintro rfl
    exact hne (underscore_mem_utf8EncodeChar_iff.mp (hbt ▸ List.mem_cons_self ..))
  simp [Rule.bytes, hcs, hbt, hb]

theorem head?_replaceBytes_ne {s pat rep : List UInt8} {b : UInt8} (hs : s.head? ≠ some b)
    (hrep : ∃ d, rep.head? = some d ∧ d ≠ b) : (replaceBytes s pat rep).head? ≠ some b := by
  obtain ⟨d, hd, hdb⟩ := hrep
  unfold replaceBytes
  split
  · cases rep with
    | nil => simp at hd
    | cons d' rep' => simpa [show d' = d by simpa using hd] using hdb
  · exact head?_replaceNonEmpty_ne _ hs hd hdb

theorem head?_applyByteRules_ne {rules : List ByteRule} {b : UInt8}
    (hrules : ∀ r ∈ rules, ∃ d, r.replacement.head? = some d ∧ d ≠ b) {s : List UInt8}
    (hs : s.head? ≠ some b) : (applyByteRules rules s).head? ≠ some b := by
  induction rules generalizing s with
  | nil => exact hs
  | cons r rs ih =>
    rw [applyByteRules, List.foldl_cons]
    exact ih (fun r' hr' => hrules r' (List.mem_cons_of_mem _ hr')) (head?_replaceBytes_ne hs (hrules r (List.mem_cons_self ..)))

theorem head?_dropAll_separatorBytes_ne (s : List UInt8) : (dropAll s separatorBytes).head? ≠ some 0x5F := by
  intro h
  have := List.mem_of_mem_head? h
  simp [dropAll, separatorBytes] at this

/-- Every byte string normalizes to the UTF-8 form of a name in snake form, which
does not start with '_' when every acronym replacement starts with a byte other
than that of '_'. -/
theorem normalize_bytes_snake_form (n : ByteNormalizer) (raw : List UInt8) :
    (∃ s : String, n.normalize raw = utf8Bytes s.toList ∧ SnakeForm s) ∧
      (n.acronymsLeadPlain = true → (n.normalize raw).head? ≠ some 0x5F) := by
  -- case splitting writes the UTF-8 form of case splitting over the text it reads
  have hout : n.normalize raw = utf8Bytes (splitCase (String.ofList (decodeRunes
      (applyByteRules n.acronyms (dropAll (applyByteRules n.vendor raw) separatorBytes))))).toList :=
    splitCaseBytes_eq _
  refine ⟨⟨_, hout, splitCase_snakeForm _⟩, fun h => ?_⟩
  rw [hout, Ne, head?_utf8Bytes_eq_underscore_iff]
  apply head?_splitCase
  rw [String.toList_ofList]
  apply head?_decodeRunes_ne_underscore
  exact head?_applyByteRules_ne (ByteNormalizer.lead_of_acronymsLeadPlain h) (head?_dropAll_separatorBytes_ne _)

/-- The standard tables taken as bytes normalize a name with a broken sequence
(0xC3 before 'A', a lone 0xFF) into snake form. -/
theorem standard_bytes_snake_form_of_broken_name :
    Normalizer.standard.bytes.acronymsLeadPlain = true ∧
      (∃ s : String, Normalizer.standard.bytes.normalize [0xC3, 0x5F, 0x41, 0xFF] = utf8Bytes s.toList ∧ SnakeForm s) ∧
      (Normalizer.standard.bytes.normalize [0xC3, 0x5F, 0x41, 0xFF]).head? ≠ some 0x5F := by
  have h := Normalizer.bytes_acronymsLeadPlain standard_acronymsLeadPlain
  exact ⟨h, (normalize_bytes_snake_form _ _).1, (normalize_bytes_snake_form _ _).2 h⟩

/-- The byte of '_' is dropped, and 0xC3 before 'A' and the lone 0xFF are each read as U+FFFD. -/
example : Normalizer.standard.bytes.normalize [0xC3, 0x5F, 0x41, 0xFF] = utf8Bytes ['\uFFFD', '_', 'a', '\uFFFD'] := by
  decide +kernel

/-- An acronym replacement that starts with '_' puts one at the front of the name:
the leading '_' is skipped without being remembered, so the letter after it gets
an underscore of its own. -/
theorem normalize_leads_with_underscore :
    ({ Normalizer.standard with acronyms := [⟨"X", "_X"⟩] } : Normalizer).bytes.normalize [0x58] = [0x5F, 0x78] := by
  decide +kernel

end UpnpBind.Naming
