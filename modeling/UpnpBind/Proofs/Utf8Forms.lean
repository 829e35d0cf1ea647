import UpnpBind.Naming.Bytes

/-!
# UTF-8 forms of texts

The UTF-8 form of a text is read back as the text, one piece per character
(`runes_utf8Bytes`). A byte below 0x80 in the form of a character is the whole
form of an ASCII character, and the continuation bytes of a character start
none; with the prefix property of the code, a non-empty pattern is found in the
UTF-8 form of a text exactly where its characters are found in the text
(`replaceNonEmpty_utf8Bytes`). So each stage of normalizing does to the UTF-8
form of a text what it does to the text, and normalizing the UTF-8 form of a
raw name gives the UTF-8 form of its normal form
(`Normalizer.bytes_normalize_utf8Bytes`).
-/

namespace UpnpBind.Text

@[simp] theorem utf8Bytes_nil : utf8Bytes [] = [] := rfl

@[simp] theorem utf8Bytes_cons (c : Char) (cs : List Char) :
    utf8Bytes (c :: cs) = String.utf8EncodeChar c ++ utf8Bytes cs := List.flatMap_cons

@[simp] theorem utf8Bytes_append (cs ds : List Char) : utf8Bytes (cs ++ ds) = utf8Bytes cs ++ utf8Bytes ds :=
  List.flatMap_append

theorem utf8Bytes_eq_nil_iff {cs : List Char} : utf8Bytes cs = [] ↔ cs = [] := by
  cases cs with
  | nil => simp
  | cons c cs =>
    have hc : String.utf8EncodeChar c ≠ [] := by
      rw [← List.length_pos_iff, String.length_utf8EncodeChar]
      exact Char.utf8Size_pos c
    simp [hc]

/-! ## The bytes of one character -/

theorem le_toNat_or (x k : UInt8) : k.toNat ≤ (x ||| k).toNat := by
  rw [UInt8.toNat_or]
  exact Nat.right_le_or

/-- The UTF-8 form of a character of two bytes or more sets the top bit of each byte. -/
theorem le_toNat_of_mem_utf8EncodeChar {c : Char} (h : c.utf8Size ≠ 1) {b : UInt8}
    (hb : b ∈ String.utf8EncodeChar c) : 128 ≤ b.toNat := by
  rcases Char.utf8Size_eq c with h1 | h2 | h3 | h4
  · exact absurd h1 h
  · rw [String.utf8EncodeChar_eq_cons_cons h2] at hb
    simp only [List.mem_cons, List.not_mem_nil, or_false] at hb
    rcases hb with rfl | rfl <;> exact Nat.le_trans (by decide) (le_toNat_or _ _)
  · rw [String.utf8EncodeChar_eq_cons_cons_cons h3] at hb
    simp only [List.mem_cons, List.not_mem_nil, or_false] at hb
    rcases hb with rfl | rfl | rfl <;> exact Nat.le_trans (by decide) (le_toNat_or _ _)
  · rw [String.utf8EncodeChar_eq_cons_cons_cons_cons h4] at hb
    simp only [List.mem_cons, List.not_mem_nil, or_false] at hb
    rcases hb with rfl | rfl | rfl | rfl <;> exact Nat.le_trans (by decide) (le_toNat_or _ _)

/-- A byte below 0x80 in the UTF-8 form of a character is the whole form of an
ASCII character. -/
theorem utf8EncodeChar_eq_of_mem {c : Char} {b : UInt8} (hb : b ∈ String.utf8EncodeChar c) (hlt : b.toNat < 128) :
    String.utf8EncodeChar c = [b] := by
  by_cases h : c.utf8Size = 1
  · rw [String.utf8EncodeChar_eq_singleton h, List.mem_singleton] at hb
    rw [String.utf8EncodeChar_eq_singleton h, hb]
  · exact absurd (le_toNat_of_mem_utf8EncodeChar h hb) (by omega)

/-- Characters with the same UTF-8 form are the same: the form decodes back. -/
theorem eq_of_utf8EncodeChar_eq {c d : Char} (h : String.utf8EncodeChar c = String.utf8EncodeChar d) : c = d := by
  have hc := ByteArray.utf8DecodeChar?_utf8EncodeChar_append (b := ByteArray.empty) (c := c)
  rw [h, ByteArray.utf8DecodeChar?_utf8EncodeChar_append] at hc
  exact (Option.some.inj hc).symm

/-- The byte 0x5F stands in a character's UTF-8 form only for '_'. -/
theorem underscore_mem_utf8EncodeChar_iff {c : Char} : 0x5F ∈ String.utf8EncodeChar c ↔ c = '_' := by
  constructor
  · intro hb
    exact eq_of_utf8EncodeChar_eq ((utf8EncodeChar_eq_of_mem hb (by decide)).trans (by decide))
  · rintro rfl
    decide

theorem utf8EncodeChar_ne_nil (c : Char) : String.utf8EncodeChar c ≠ [] := by
  rw [← List.length_pos_iff, String.length_utf8EncodeChar]
  exact Char.utf8Size_pos c

theorem utf8Bytes_ne_nil {cs : List Char} (h : cs ≠ []) : utf8Bytes cs ≠ [] := by
  obtain ⟨c, cs, rfl⟩ := List.exists_cons_of_ne_nil h
  rw [utf8Bytes_cons]
  exact List.append_ne_nil_of_left_ne_nil (utf8EncodeChar_ne_nil c) _

/-- A UTF-8 form starts with the byte of '_' exactly when its text starts with '_'. -/
theorem head?_utf8Bytes_eq_underscore_iff {cs : List Char} :
    (utf8Bytes cs).head? = some 0x5F ↔ cs.head? = some '_' := by
  cases cs with
  | nil => simp
  | cons c cs =>
    obtain ⟨b, t, hbt⟩ := List.exists_cons_of_ne_nil (utf8EncodeChar_ne_nil c)
    simp only [utf8Bytes_cons, hbt, List.cons_append, List.head?_cons, Option.some.injEq]
    constructor
    · rintro rfl
      exact underscore_mem_utf8EncodeChar_iff.mp (hbt ▸ List.mem_cons_self ..)
    · rintro rfl
      simp only [show String.utf8EncodeChar '_' = [0x5F] by decide, List.cons.injEq] at hbt
      exact hbt.1.symm

/-- The bytes after the first in a character's UTF-8 form start no character. -/
theorem not_isUTF8FirstByte_of_mem_tail {c : Char} {b : UInt8} (hb : b ∈ (String.utf8EncodeChar c).tail) :
    ¬b.IsUTF8FirstByte := by
  obtain ⟨i, hi, rfl⟩ := List.getElem_of_mem hb
  rw [List.getElem_tail, UInt8.isUTF8FirstByte_getElem_utf8EncodeChar]
  omega

theorem isUTF8FirstByte_of_utf8EncodeChar_eq_cons {c : Char} {b : UInt8} {t : List UInt8}
    (h : String.utf8EncodeChar c = b :: t) : b.IsUTF8FirstByte := by
  have hfirst := UInt8.isUTF8FirstByte_getElem_zero_utf8EncodeChar (c := c)
  simp only [h, List.getElem_cons_zero] at hfirst
  exact hfirst

/-! ## Reading UTF-8 forms -/

theorem runes_nil : runes [] = [] := by
  rw [runes]

theorem runeAt_utf8EncodeChar_append (c : Char) (rest : List UInt8) :
    runeAt (String.utf8EncodeChar c ++ rest).toByteArray 0 = (c, c.utf8Size) := by
  rw [runeAt, List.toByteArray_append, ByteArray.utf8DecodeChar?_utf8EncodeChar_append]

/-- The UTF-8 form of a text is read back one character at a time, each from its own bytes. -/
theorem runes_utf8Bytes (cs : List Char) : runes (utf8Bytes cs) = cs.map fun c => (c, String.utf8EncodeChar c) := by
  induction cs with
  | nil => exact runes_nil
  | cons c cs ih =>
    obtain ⟨b, t, hbt⟩ := List.exists_cons_of_ne_nil (utf8EncodeChar_ne_nil c)
    have hlen : (String.utf8EncodeChar c).length = c.utf8Size := String.length_utf8EncodeChar c
    rw [utf8Bytes_cons, hbt, List.cons_append, runes, ← List.cons_append, ← hbt, runeAt_utf8EncodeChar_append]
    simp only [List.take_left' hlen, List.drop_left' hlen, ih, List.map_cons]

theorem decodeRunes_utf8Bytes (cs : List Char) : decodeRunes (utf8Bytes cs) = cs := by
  simp [decodeRunes, runes_utf8Bytes, Function.comp_def]

/-- A byte string is read as a text starting with '_' only when it starts with the byte of '_'. -/
theorem head?_decodeRunes_ne_underscore {bs : List UInt8} (h : bs.head? ≠ some 0x5F) :
    (decodeRunes bs).head? ≠ some '_' := by
  cases bs with
  | nil => simp [decodeRunes, runes_nil]
  | cons b rest =>
    rw [decodeRunes, runes]
    simp only [List.map_cons, List.head?_cons]
    unfold runeAt
    split
    · rename_i c hc
      intro hr
      obtain rfl : c = '_' := by simpa using hr
      -- a well-formed '_' is its one byte
      obtain ⟨l, hl⟩ := ByteArray.exists_of_utf8DecodeChar?_eq_some hc
      have hbytes := congrArg (fun a => a.data.toList) hl
      simp only [List.toList_data_toByteArray, ByteArray.toList_data_append,
        show String.utf8EncodeChar '_' = [0x5F] by decide, List.singleton_append, List.cons.injEq] at hbytes
      exact h (by rw [hbytes.1]; rfl)
    · exact fun hr => absurd hr (by decide)

/-! ## Editing UTF-8 forms -/

/-- The UTF-8 form of a text starts with the form of a pattern exactly when the
text starts with the pattern: the code is a prefix code. -/
theorem isPrefixOf_utf8Bytes_iff {pat s : List Char} :
    (utf8Bytes pat).isPrefixOf (utf8Bytes s) = true ↔ pat.isPrefixOf s = true := by
  rw [List.isPrefixOf_iff_prefix, List.isPrefixOf_iff_prefix]
  constructor
  · rintro ⟨t, ht⟩
    apply List.isPrefix_of_utf8Encode_append_eq_utf8Encode t.toByteArray
    rw [List.utf8Encode, List.utf8Encode, ← List.toByteArray_append]
    exact congrArg List.toByteArray ht
  · rintro ⟨r, rfl⟩
    exact ⟨utf8Bytes r, (utf8Bytes_append pat r).symm⟩

/-- A pattern that starts with a byte that starts a character is not found at
the bytes that start none. -/
theorem replaceNonEmpty_append_of_not_first {pat rep : List UInt8} (h : pat ≠ []) {p : UInt8}
    (hp : pat.head? = some p) (hfirst : p.IsUTF8FirstByte) {t : List UInt8} (ht : ∀ b ∈ t, ¬b.IsUTF8FirstByte)
    (u : List UInt8) : replaceNonEmpty pat rep h (t ++ u) = t ++ replaceNonEmpty pat rep h u := by
  obtain ⟨ps, rfl⟩ : ∃ ps, pat = p :: ps := by
    obtain ⟨q, ps, rfl⟩ := List.exists_cons_of_ne_nil h
    exact ⟨ps, by simpa using hp⟩
  induction t with
  | nil => rfl
  | cons b t ih =>
    have hne : ¬(p :: ps).isPrefixOf (b :: (t ++ u)) = true := by
      intro hpre
      have hpb : p = b := by simpa [List.isPrefixOf] using (Bool.and_eq_true _ _).mp hpre |>.1
      exact ht b (List.mem_cons_self ..) (hpb ▸ hfirst)
    rw [List.cons_append, replaceNonEmpty, dif_neg hne]
    show b :: replaceNonEmpty (p :: ps) rep h (t ++ u) = _
    rw [ih fun b hb => ht b (List.mem_cons_of_mem _ hb)]
    rfl

/-- Replacing a non-empty pattern in the UTF-8 form of a text replaces it in the text. -/
theorem replaceNonEmpty_utf8Bytes {pat rep : List Char} (h : pat ≠ []) (s : List Char) :
    replaceNonEmpty (utf8Bytes pat) (utf8Bytes rep) (utf8Bytes_ne_nil h) (utf8Bytes s) =
      utf8Bytes (replaceNonEmpty pat rep h s) := by
  -- the pattern's form starts with the first byte of its first character
  obtain ⟨p, hp, hfirst⟩ : ∃ p, (utf8Bytes pat).head? = some p ∧ p.IsUTF8FirstByte := by
    obtain ⟨c, cs, rfl⟩ := List.exists_cons_of_ne_nil h
    obtain ⟨b, t, hbt⟩ := List.exists_cons_of_ne_nil (utf8EncodeChar_ne_nil c)
    exact ⟨b, by simp [hbt], isUTF8FirstByte_of_utf8EncodeChar_eq_cons hbt⟩
  fun_induction replaceNonEmpty pat rep h s with
  | case1 s hpre ih =>
    obtain ⟨r, rfl⟩ := List.isPrefixOf_iff_prefix.mp hpre
    rw [List.drop_left] at ih
    rw [replaceNonEmpty, dif_pos (isPrefixOf_utf8Bytes_iff.mpr hpre), utf8Bytes_append, List.drop_left,
      List.drop_left, ih, utf8Bytes_append]
  | case2 hpre =>
    have hne : ¬(utf8Bytes pat).isPrefixOf (utf8Bytes []) = true := fun h' => hpre (isPrefixOf_utf8Bytes_iff.mp h')
    rw [replaceNonEmpty, dif_neg hne]
    rfl
  | case3 c cs hpre ih =>
    -- past the first byte of `c`, its continuation bytes start no match
    have hne : ¬(utf8Bytes pat).isPrefixOf (utf8Bytes (c :: cs)) = true :=
      fun h' => hpre (isPrefixOf_utf8Bytes_iff.mp h')
    obtain ⟨b, t, hbt⟩ := List.exists_cons_of_ne_nil (utf8EncodeChar_ne_nil c)
    have ht : ∀ b' ∈ t, ¬b'.IsUTF8FirstByte := fun b' hb' =>
      not_isUTF8FirstByte_of_mem_tail (c := c) (by rw [hbt]; exact hb')
    rw [utf8Bytes_cons, hbt, List.cons_append] at hne ⊢
    rw [replaceNonEmpty, dif_neg hne]
    simp only [replaceNonEmpty_append_of_not_first _ hp hfirst ht, ih, utf8Bytes_cons, hbt, List.cons_append]

/-! ## Trimming UTF-8 forms -/

theorem dropWhile_flatMap_reverse_utf8EncodeChar (l : List Char) :
    (l.flatMap (List.reverse ∘ String.utf8EncodeChar)).dropWhile (· == 0x5F) =
      (l.dropWhile (· == '_')).flatMap (List.reverse ∘ String.utf8EncodeChar) := by
  induction l with
  | nil => rfl
  | cons c l ih =>
    by_cases hc : c = '_'
    · subst hc
      simp only [List.flatMap_cons, Function.comp_apply, show String.utf8EncodeChar '_' = [0x5F] by decide,
        List.reverse_singleton, List.singleton_append, List.dropWhile_cons, beq_self_eq_true, ↓reduceIte, ih]
    · -- the last byte of `c` is not the byte of '_'
      obtain ⟨b, t, hbt⟩ := List.exists_cons_of_ne_nil (List.reverse_ne_nil_iff.mpr (utf8EncodeChar_ne_nil c))
      have hb : b ≠ 0x5F := by
        rintro rfl
        exact hc (underscore_mem_utf8EncodeChar_iff.mp (List.mem_reverse.mp (hbt ▸ List.mem_cons_self ..)))
      simp only [List.flatMap_cons, Function.comp_apply, hbt, List.cons_append]
      rw [List.dropWhile_cons_of_neg (by simpa using hb), List.dropWhile_cons_of_neg (by simpa using hc),
        List.flatMap_cons, Function.comp_apply, hbt, List.cons_append]

/-- Dropping trailing '_' bytes from a UTF-8 form drops the trailing '_' characters. -/
theorem trimRightList_utf8Bytes (l : List Char) : trimRightList (utf8Bytes l) 0x5F = utf8Bytes (trimRightList l '_') := by
  rw [trimRightList, trimRightList, utf8Bytes, utf8Bytes, List.reverse_flatMap, dropWhile_flatMap_reverse_utf8EncodeChar,
    List.reverse_flatMap]
  simp only [Function.comp_def, List.reverse_reverse]

/-! ## ASCII texts

A text whose bytes are all below 0x80 is read byte by byte, each byte as the
character of its code. Reading a long text that way is what evaluation can
afford; the lemmas below say it reads what `String.toList` does. -/

/-- The characters of bytes taken one by one, as ASCII codes. -/
def asciiChars (bs : List UInt8) : List Char := bs.map fun b => Char.ofNat b.toNat

/-- Whether every byte of a text is below 0x80. -/
def asciiText (s : String) : Bool := s.toByteArray.data.toList.all (·.toNat < 128)

theorem toByteArray_toList (s : String) : s.toByteArray.data.toList = utf8Bytes s.toList := by
  conv => lhs; rw [← String.ofList_toList (s := s)]
  exact List.toList_data_toByteArray

theorem utf8Size_eq_one_of_ascii {c : Char} (h : ∀ b ∈ String.utf8EncodeChar c, b.toNat < 128) :
    c.utf8Size = 1 := by
  by_cases hne : c.utf8Size = 1
  · exact hne
  · obtain ⟨b, hb⟩ := List.exists_mem_of_ne_nil _ (utf8EncodeChar_ne_nil c)
    exact absurd (h b hb) (Nat.not_lt.mpr (le_toNat_of_mem_utf8EncodeChar hne hb))

theorem asciiChars_utf8EncodeChar {c : Char} (h : c.utf8Size = 1) : asciiChars (String.utf8EncodeChar c) = [c] := by
  have hc : c.val.toNat ≤ 127 := by
    have := Char.utf8Size_eq_one_iff.mp h
    rwa [UInt32.le_iff_toNat_le] at this
  rw [String.utf8EncodeChar_eq_singleton h, asciiChars, List.map_singleton, UInt32.toNat_toUInt8,
    Nat.mod_eq_of_lt (by omega)]
  exact congrArg (· :: []) (Char.ofNat_toNat c)

theorem asciiChars_utf8Bytes {cs : List Char} (h : ∀ b ∈ utf8Bytes cs, b.toNat < 128) :
    asciiChars (utf8Bytes cs) = cs := by
  induction cs with
  | nil => rfl
  | cons c cs ih =>
    rw [utf8Bytes_cons] at h ⊢
    have hc := utf8Size_eq_one_of_ascii fun b hb => h b (List.mem_append_left _ hb)
    rw [asciiChars, List.map_append, ← asciiChars, ← asciiChars, asciiChars_utf8EncodeChar hc,
      ih fun b hb => h b (List.mem_append_right _ hb)]
    rfl

/-- An ASCII text is its bytes read one by one. -/
theorem toList_eq_asciiChars {s : String} (h : asciiText s = true) : s.toList = asciiChars s.toByteArray.data.toList := by
  rw [asciiText, List.all_eq_true] at h
  rw [toByteArray_toList] at h ⊢
  exact (asciiChars_utf8Bytes fun b hb => by simpa using h b hb).symm

/-- Lines of ASCII text joined by line breaks, read line by line. -/
theorem toList_lines {ls : List String} (h : ls.all asciiText = true) :
    ("\n".intercalate ls).toList = ['\n'].intercalate (ls.map fun l => asciiChars l.toByteArray.data.toList) := by
  rw [String.toList_intercalate, List.all_eq_true] at *
  congr 1
  exact List.map_congr_left fun l hl => toList_eq_asciiChars (h l hl)

end UpnpBind.Text

namespace UpnpBind.Naming

open UpnpBind.Text

/-! ## Normalizing UTF-8 forms -/

/-- Dropping the bytes of '_' and '-' from a UTF-8 form drops those characters. -/
theorem dropAll_utf8Bytes (cs : List Char) :
    dropAll (utf8Bytes cs) separatorBytes = utf8Bytes (dropAll cs ['_', '-']) := by
  induction cs with
  | nil => rfl
  | cons c cs ih =>
    simp only [dropAll] at ih ⊢
    rw [utf8Bytes_cons, List.filter_append, ih, List.filter_cons]
    by_cases hc : c = '_' ∨ c = '-'
    · rcases hc with rfl | rfl <;> rfl
    · -- no byte of `c` is a separator byte
      have hkeep : (String.utf8EncodeChar c).filter (fun b => !separatorBytes.contains b) = String.utf8EncodeChar c := by
        rw [List.filter_eq_self]
        intro b hb
        simp only [separatorBytes, Bool.not_eq_eq_eq_not, Bool.not_true, List.contains_eq_mem,
          decide_eq_false_iff_not, List.mem_cons, List.not_mem_nil, or_false]
        rintro (rfl | rfl)
        · exact hc (.inl (eq_of_utf8EncodeChar_eq ((utf8EncodeChar_eq_of_mem hb (by decide)).trans (by decide))))
        · exact hc (.inr (eq_of_utf8EncodeChar_eq ((utf8EncodeChar_eq_of_mem hb (by decide)).trans (by decide))))
      have hc' : (!(['_', '-'].contains c)) = true := by simpa using hc
      rw [hkeep, if_pos hc', utf8Bytes_cons]

theorem replaceBytes_utf8Bytes (s pat rep : List Char) :
    replaceBytes (utf8Bytes s) (utf8Bytes pat) (utf8Bytes rep) = utf8Bytes (replaceList s pat rep) := by
  by_cases h : pat = []
  · subst h
    rw [replaceBytes, dif_pos utf8Bytes_nil, replaceList, dif_pos rfl, runes_utf8Bytes]
    simp [utf8Bytes, List.flatMap_map, List.flatMap_assoc]
  · rw [replaceBytes, dif_neg (utf8Bytes_ne_nil h), replaceList, dif_neg h, replaceNonEmpty_utf8Bytes h]

/-- A table of rules taken as bytes rewrites the UTF-8 form of a text into the
UTF-8 form of the text rewritten. -/
theorem applyByteRules_bytes (rules : List Rule) (s : String) :
    applyByteRules (rules.map Rule.bytes) (utf8Bytes s.toList) = utf8Bytes (applyRules rules s).toList := by
  induction rules generalizing s with
  | nil => rfl
  | cons r rs ih =>
    have hstep : replaceBytes (utf8Bytes s.toList) r.bytes.pattern r.bytes.replacement =
        utf8Bytes (replaceAll s r.pattern r.replacement).toList := by
      rw [Rule.bytes, replaceAll, String.toList_ofList, replaceBytes_utf8Bytes]
    rw [List.map_cons, applyByteRules, List.foldl_cons, hstep, applyRules, List.foldl_cons]
    exact ih _

/-- Case splitting over bytes writes the UTF-8 form of case splitting over the
text the bytes are read as. -/
theorem splitCaseBytes_eq (bs : List UInt8) :
    splitCaseBytes bs = utf8Bytes (splitCase (String.ofList (decodeRunes bs))).toList := by
  rw [splitCaseBytes, trimRightList_utf8Bytes, splitCase, trimRightChar, String.toList_ofList, String.toList_ofList,
    String.toList_ofList]

/-- Normalizing the UTF-8 form of a raw name gives the UTF-8 form of its normal form. -/
theorem Normalizer.bytes_normalize_utf8Bytes (n : Normalizer) (raw : String) :
    n.bytes.normalize (utf8Bytes raw.toList) = utf8Bytes (n.normalize raw).toList := by
  have hdrop : dropAll (utf8Bytes (applyRules n.vendor raw).toList) separatorBytes =
      utf8Bytes (dropChars (applyRules n.vendor raw) ['_', '-']).toList := by
    rw [dropAll_utf8Bytes, dropChars, String.toList_ofList]
  rw [ByteNormalizer.normalize, Normalizer.bytes, applyByteRules_bytes, hdrop, applyByteRules_bytes, splitCaseBytes_eq,
    decodeRunes_utf8Bytes, String.ofList_toList, Normalizer.normalize]

end UpnpBind.Naming
