import UpnpBind.Naming.Normalize
import UpnpBind.Proofs.Identifier
import UpnpBind.Proofs.UnitNames
import UpnpBind.Proofs.FinalizedSets

/-!
# Names declared in the generated packages

The response package of a unit declares one response type per action and, in
each, one field per response field beside `XMLName`; the request package
declares one request function per action, with one parameter per parameter
that goes in. The shared envelope keys its alias table by `<Name>Response`.

These names are derived with loss. A response type name is the raw action name
without '-' and '_', and the identifiers come from normalized names, which fold
case and separators. So two actions `GetInfo` and `Get_Info` of one service get
the same response type and the same request function
(`response_types_collide_for_separated_action_names`).

What holds (`declared_names_distinct_of_plain`): two actions of a unit have the
same response type exactly when their raw names agree once '-' and '_' are
dropped. Request functions, response fields and parameters get identifiers
that are distinct exactly when their normalized names are, as long as those
names are plain: ASCII words of a lower-case letter followed by lower-case
letters and digits, joined by single underscores. Case splitting gives a plain
name back from its exported identifier and from its parameter identifier
(`splitCaseFrom_exportedName`, `exists_parameterBase`). The aliases of a set
are distinct, so are their keys.
-/

namespace UpnpBind

open UpnpBind.Text UpnpBind.Description UpnpBind.Model

/-! ## Words of a split -/

namespace Text

/-- A text is its first piece, then each further piece after a separator. -/
theorem eq_append_of_splitList_eq_cons {l w : List Char} {ws : List (List Char)} {sep : Char}
    (h : splitList l sep = w :: ws) : l = w ++ ws.flatMap (sep :: ·) := by
  induction l generalizing w ws with
  | nil =>
    simp only [splitList, List.cons.injEq] at h
    obtain ⟨rfl, rfl⟩ := h
    rfl
  | cons x xs ih =>
    unfold splitList at h
    obtain ⟨w', ws', hxs⟩ := List.exists_cons_of_ne_nil (splitList_ne_nil xs sep)
    split at h
    · -- a separator closes an empty first piece
      rename_i hx
      obtain ⟨rfl, rfl⟩ := List.cons.inj h
      rw [hxs, ih hxs, hx]
      simp
    · -- any other character starts the first piece
      rw [hxs] at h
      obtain ⟨rfl, rfl⟩ := List.cons.inj h
      rw [ih hxs]
      rfl

end Text

/-! ## Plain snake names -/

namespace Naming

/-- An ASCII lower-case letter. -/
def isAsciiLower (c : Char) : Bool := 'a' ≤ c && c ≤ 'z'

/-- A character a word of a plain name goes on with: an ASCII lower-case letter or digit. -/
def isWordPart (c : Char) : Bool := isAsciiLower c || ('0' ≤ c && c ≤ '9')

/-- A word of a plain name: an ASCII lower-case letter, then lower-case letters and digits. -/
def isPlainWord : List Char → Bool
  | [] => false
  | c :: cs => isAsciiLower c && cs.all isWordPart

/-- A plain snake name: plain words joined by single underscores. -/
def isPlainSnake (s : String) : Bool := (splitList s.toList '_').all isPlainWord

theorem isWordPart_of_isAsciiLower {c : Char} (h : isAsciiLower c = true) : isWordPart c = true := by
  simp [isWordPart, h]

theorem lt_of_isWordPart {c : Char} (h : isWordPart c = true) : c.toNat < 128 := by
  simp only [isWordPart, isAsciiLower, Bool.or_eq_true, Bool.and_eq_true, decide_eq_true_eq] at h
  have hle : c ≤ 'z' := by
    rcases h with ⟨-, h⟩ | ⟨-, h⟩
    · exact h
    · exact le_trans h (by decide)
  have : c.val.toNat ≤ 122 := hle
  exact Nat.lt_of_le_of_lt this (by decide)

/-- A character of a word is no upper-case letter and no underscore, nor is its
upper-case form an underscore. -/
theorem isWordPart_cases {c : Char} (h : isWordPart c = true) :
    isUpper c = false ∧ c ≠ '_' ∧ toUpper c ≠ '_' :=
  of_ascii (P := fun c => isWordPart c = true → isUpper c = false ∧ c ≠ '_' ∧ toUpper c ≠ '_') (by decide)
    (lt_of_isWordPart h) h

/-- The upper-case form of a lower-case letter is an upper-case letter whose
lower-case form is the letter again. -/
theorem toUpper_of_isAsciiLower {c : Char} (h : isAsciiLower c = true) :
    isUpper (toUpper c) = true ∧ toLower (toUpper c) = c ∧ isLetter (toUpper c) = true :=
  of_ascii (P := fun c => isAsciiLower c = true →
      isUpper (toUpper c) = true ∧ toLower (toUpper c) = c ∧ isLetter (toUpper c) = true) (by decide)
    (lt_of_isWordPart (isWordPart_of_isAsciiLower h)) h

/-- The words of a plain name: a first word and the words after it. -/
theorem exists_words_of_isPlainSnake {s : String} (h : isPlainSnake s = true) :
    ∃ c cs ws, isAsciiLower c = true ∧ (∀ d ∈ cs, isWordPart d = true) ∧ (∀ w ∈ ws, isPlainWord w = true) ∧
      splitList s.toList '_' = (c :: cs) :: ws := by
  obtain ⟨w, ws, hsplit⟩ := List.exists_cons_of_ne_nil (splitList_ne_nil s.toList '_')
  have hall := List.all_eq_true.mp (hsplit ▸ h : (w :: ws).all isPlainWord = true)
  cases w with
  | nil => exact absurd (hall [] (List.mem_cons_self ..)) (by decide)
  | cons c cs =>
    have hw := hall (c :: cs) (List.mem_cons_self ..)
    simp only [isPlainWord, Bool.and_eq_true, List.all_eq_true] at hw
    exact ⟨c, cs, ws, hw.1, hw.2, fun w hw' => hall w (List.mem_cons_of_mem _ hw'), hsplit⟩

/-! ## Case splitting an identifier back -/

/-- A character of a word is written as it is. -/
theorem splitCaseFrom_cons_of_isWordPart {c : Char} (hc : isWordPart c = true) (first : Bool) (last : Char)
    (rest : List Char) : splitCaseFrom first last (c :: rest) = c :: splitCaseFrom false c rest := by
  obtain ⟨hup, hne, -⟩ := isWordPart_cases hc
  simp [splitCaseFrom, hup, hne]

/-- An upper-cased letter is lower-cased again, after an underscore unless it
starts the text or follows one. -/
theorem splitCaseFrom_cons_toUpper {c : Char} (hc : isAsciiLower c = true) (first : Bool) (last : Char)
    (rest : List Char) :
    splitCaseFrom first last (toUpper c :: rest) =
      (if !first && last != '_' then ['_', c] else [c]) ++ splitCaseFrom false c rest := by
  obtain ⟨hup, hlow, -⟩ := toUpper_of_isAsciiLower hc
  simp only [splitCaseFrom, hup, if_true, hlow]

/-- The characters of a word pass unchanged, and the last one written is a
character of the word, or the one before them if there are none. -/
theorem splitCaseFrom_append_of_isWordPart {cs : List Char} (hcs : ∀ d ∈ cs, isWordPart d = true) (last : Char)
    (rest : List Char) :
    ∃ l, (l = last ∨ isWordPart l = true) ∧ splitCaseFrom false last (cs ++ rest) = cs ++ splitCaseFrom false l rest := by
  induction cs generalizing last with
  | nil => exact ⟨last, .inl rfl, rfl⟩
  | cons d ds ih =>
    have hd := hcs d (List.mem_cons_self ..)
    obtain ⟨l, hl, hrest⟩ := ih (fun e he => hcs e (List.mem_cons_of_mem _ he)) d
    refine ⟨l, .inr (hl.elim (fun h => h ▸ hd) id), ?_⟩
    rw [List.cons_append, splitCaseFrom_cons_of_isWordPart hd, hrest, List.cons_append]

/-- Capitalised plain words after a character other than an underscore are
split back into the words, each after an underscore. -/
theorem splitCaseFrom_capitalized {ws : List (List Char)} (hws : ∀ w ∈ ws, isPlainWord w = true) {last : Char}
    (hlast : last ≠ '_') (rest : List Char) :
    ∃ l, l ≠ '_' ∧
      splitCaseFrom false last (ws.flatMap capitalize ++ rest) = ws.flatMap ('_' :: ·) ++ splitCaseFrom false l rest := by
  induction ws generalizing last with
  | nil => exact ⟨last, hlast, rfl⟩
  | cons w ws ih =>
    cases w with
    | nil => exact absurd (hws [] (List.mem_cons_self ..)) (by decide)
    | cons c cs =>
      have hw := hws (c :: cs) (List.mem_cons_self ..)
      simp only [isPlainWord, Bool.and_eq_true, List.all_eq_true] at hw
      obtain ⟨hc, hcs⟩ := hw
      -- the word's letters pass, then the words after it, from its last character on
      obtain ⟨l₁, hl₁, hword⟩ := splitCaseFrom_append_of_isWordPart hcs c (ws.flatMap capitalize ++ rest)
      have hl₁' : l₁ ≠ '_' := by
        rcases hl₁ with rfl | hl₁
        · exact (isWordPart_cases (isWordPart_of_isAsciiLower hc)).2.1
        · exact (isWordPart_cases hl₁).2.1
      obtain ⟨l, hl, hrest⟩ := ih (fun w hw' => hws w (List.mem_cons_of_mem _ hw')) hl₁'
      refine ⟨l, hl, ?_⟩
      have hsep : (!false && last != '_') = true := by simpa using hlast
      rw [List.flatMap_cons, capitalize]
      simp only [List.cons_append, List.append_assoc]
      rw [splitCaseFrom_cons_toUpper hc, if_pos hsep, hword, hrest]
      simp

/-- The exported identifier of a plain name: its first word capitalised, then
the other words capitalised, with no underscores. -/
theorem exportedName_toList_of_words {s : String} {c : Char} {cs : List Char} {ws : List (List Char)}
    (hc : isAsciiLower c = true) (hsplit : splitList s.toList '_' = (c :: cs) :: ws) :
    (exportedName s).toList = toUpper c :: (cs ++ ws.flatMap capitalize) := by
  have hletter := (toUpper_of_isAsciiLower hc).2.2
  simp [exportedName, hsplit, capitalize, hletter]

/-- The exported identifier of a plain name holds no underscore. -/
theorem underscore_not_mem_exportedName {s : String} {c : Char} {cs : List Char} {ws : List (List Char)}
    (hc : isAsciiLower c = true) (hcs : ∀ d ∈ cs, isWordPart d = true) (hws : ∀ w ∈ ws, isPlainWord w = true)
    (hsplit : splitList s.toList '_' = (c :: cs) :: ws) : '_' ∉ (exportedName s).toList := by
  -- every character of a plain word, and its upper-case form, is other than an underscore
  have hpart : ∀ w ∈ (c :: cs) :: ws, ∀ d ∈ w, isWordPart d = true := by
    intro w hw d hd
    have hplain : isPlainWord w = true := by
      rcases List.mem_cons.mp hw with rfl | hw
      · simp [isPlainWord, hc, List.all_eq_true.mpr hcs]
      · exact hws w hw
    cases w with
    | nil => cases hd
    | cons e es =>
      simp only [isPlainWord, Bool.and_eq_true, List.all_eq_true] at hplain
      rcases List.mem_cons.mp hd with rfl | hd
      · exact isWordPart_of_isAsciiLower hplain.1
      · exact hplain.2 d hd
  rw [show (exportedName s).toList = ((c :: cs) :: ws).flatMap capitalize by
    rw [exportedName_toList_of_words hc hsplit]; rfl]
  intro hmem
  obtain ⟨w, hw, hd⟩ := List.mem_flatMap.mp hmem
  obtain ⟨e, he, rfl | hup⟩ := mem_capitalize hd
  · exact (isWordPart_cases (hpart w hw _ he)).2.1 rfl
  · exact (isWordPart_cases (hpart w hw e he)).2.2 hup.symm

/-- Case splitting gives a plain name back from its exported identifier. -/
theorem splitCaseFrom_exportedName {s : String} (h : isPlainSnake s = true) :
    splitCaseFrom true (Char.ofNat 0) (exportedName s).toList = s.toList := by
  obtain ⟨c, cs, ws, hc, hcs, hws, hsplit⟩ := exists_words_of_isPlainSnake h
  obtain ⟨l₁, hl₁, hword⟩ := splitCaseFrom_append_of_isWordPart hcs c (ws.flatMap capitalize ++ [])
  have hl₁' : l₁ ≠ '_' := by
    rcases hl₁ with rfl | hl₁
    · exact (isWordPart_cases (isWordPart_of_isAsciiLower hc)).2.1
    · exact (isWordPart_cases hl₁).2.1
  obtain ⟨l, -, hrest⟩ := splitCaseFrom_capitalized hws hl₁' []
  rw [exportedName_toList_of_words hc hsplit, splitCaseFrom_cons_toUpper hc, ← List.append_nil (ws.flatMap _),
    hword, hrest, eq_append_of_splitList_eq_cons hsplit]
  simp [splitCaseFrom]

/-- Plain names with the same exported identifier are the same. -/
theorem eq_of_exportedName_eq {s t : String} (hs : isPlainSnake s = true) (ht : isPlainSnake t = true)
    (h : exportedName s = exportedName t) : s = t := by
  rw [← String.toList_inj, ← splitCaseFrom_exportedName hs, ← splitCaseFrom_exportedName ht, h]

/-- Plain names have distinct exported identifiers exactly when they are distinct. -/
theorem nodup_map_exportedName_iff {names : List String} (h : ∀ n ∈ names, isPlainSnake n = true) :
    (names.map exportedName).Nodup ↔ names.Nodup :=
  ⟨List.Nodup.of_map _, List.Nodup.map_on fun x hx y hy hxy => eq_of_exportedName_eq (h x hx) (h y hy) hxy⟩

/-! ## Parameter identifiers -/

/-- The parameter identifier of a plain name before escaping: its exported
identifier with the first letter lower-cased again, which case splitting also
gives the name back from, and which holds no underscore. -/
theorem exists_parameterBase {s : String} (h : isPlainSnake s = true) :
    ∃ p : String, '_' ∉ p.toList ∧ splitCaseFrom true (Char.ofNat 0) p.toList = s.toList ∧
      parameterName s = if (keywords.contains p || reservedNames.contains p) = true then p ++ "_" else p := by
  obtain ⟨c, cs, ws, hc, hcs, hws, hsplit⟩ := exists_words_of_isPlainSnake h
  have hexp := exportedName_toList_of_words hc hsplit
  have hnot := underscore_not_mem_exportedName hc hcs hws hsplit
  rw [hexp] at hnot
  refine ⟨String.ofList (c :: (cs ++ ws.flatMap capitalize)), ?_, ?_, ?_⟩
  · -- the first letter is lower-cased, the rest is the exported identifier's
    rw [String.toList_ofList]
    rintro (_ | ⟨_, hmem⟩)
    · exact (isWordPart_cases (isWordPart_of_isAsciiLower hc)).2.1 rfl
    · exact hnot (List.mem_cons_of_mem _ hmem)
  · rw [String.toList_ofList, splitCaseFrom_cons_of_isWordPart (isWordPart_of_isAsciiLower hc),
      ← splitCaseFrom_exportedName h, hexp, splitCaseFrom_cons_toUpper hc]
    rfl
  · simp only [parameterName, hexp, (toUpper_of_isAsciiLower hc).2.1]

/-- Plain names with the same parameter identifier are the same: an escaped
identifier ends with an underscore, which no unescaped one holds. -/
theorem eq_of_parameterName_eq {s t : String} (hs : isPlainSnake s = true) (ht : isPlainSnake t = true)
    (h : parameterName s = parameterName t) : s = t := by
  obtain ⟨p, hp, hps, hpname⟩ := exists_parameterBase hs
  obtain ⟨q, hq, hqt, hqname⟩ := exists_parameterBase ht
  have hu : ∀ r : String, '_' ∈ (r ++ "_").toList := fun r => by simp
  have hpq : p = q := by
    rw [hpname, hqname] at h
    split at h <;> split at h
    · exact (String.append_left_inj "_").mp h
    · exact absurd (h ▸ hu p) hq
    · exact absurd (h ▸ hu q) hp
    · exact h
  rw [← String.toList_inj, ← hps, ← hqt, hpq]

/-- Plain names have distinct parameter identifiers exactly when they are distinct. -/
theorem nodup_map_parameterName_iff {names : List String} (h : ∀ n ∈ names, isPlainSnake n = true) :
    (names.map parameterName).Nodup ↔ names.Nodup :=
  ⟨List.Nodup.of_map _, List.Nodup.map_on fun x hx y hy hxy => eq_of_parameterName_eq (h x hx) (h y hy) hxy⟩

end Naming

/-! ## The names of a unit -/

namespace Model.Builder

variable {b : Builder} {doc : ServiceDescription} {svc : Service}

/-- Each model of a successful build is the model of an action. -/
theorem exists_action_of_mem_mapM {as : List Action} {ms : List ActionModel}
    (h : as.mapM (b.action doc svc) = .ok ms) {m : ActionModel} (hm : m ∈ ms) : ∃ a ∈ as, b.action doc svc a = .ok m := by
  have hmodels := mapM_eq_ok_iff.mp h
  clear h
  induction hmodels with
  | nil => cases hm
  | cons ha _ ih =>
    rcases List.mem_cons.mp hm with rfl | hm
    · exact ⟨_, List.mem_cons_self .., ha⟩
    · obtain ⟨a, has, ha'⟩ := ih hm
      exact ⟨a, List.mem_cons_of_mem _ has, ha'⟩

/-- Every action of a unit built has the response type name of its raw name. -/
theorem responseTypeName_of_mem_buildUnit {env env' : NameSet} {u : ServiceUnit}
    (h : b.buildUnit doc svc env = .ok (u, env')) {m : ActionModel} (hm : m ∈ u.actions) :
    m.responseTypeName = Naming.responseTypeName m.name := by
  obtain ⟨-, -, hbuild, -⟩ := buildUnit_eq_ok_iff.mp h
  rw [build, actions_fst] at hbuild
  obtain ⟨a, -, ha⟩ := exists_action_of_mem_mapM hbuild hm
  obtain ⟨hname, hresponse, -⟩ := (action_eq_ok_iff.mp ha).2
  rw [hresponse, hname]

end Model.Builder

/-! ## Aliases -/

/-- The alias keys of a set not finalized yet are distinct. -/
theorem alias_keys_nodup {o : OutputSet} (h : o.finalized = false) :
    (o.finalize.aliases.map (· ++ "Response")).Nodup := by
  rw [OutputSet.finalize_eq h]
  refine List.Nodup.map (fun x y hxy => (String.append_left_inj "Response").mp hxy) ?_
  exact (sortNames_perm _).nodup_iff.mpr o.envelopeNames.nodup

/-! ## The names of the units built -/

/-- The names the templates declare from a unit that builds. Two of its actions
have the same response type exactly when their raw names agree once '-' and
'_' are dropped. The request functions of its actions, the response fields of
one action and the parameters of one action get identifiers that are distinct
exactly when their normalized names are, once those names are plain. The alias
keys of a set not finalized yet are distinct. -/
theorem declared_names_distinct_of_plain (b : Builder) (doc : ServiceDescription) (svc : Service)
    (env env' : NameSet) (u : ServiceUnit) (h : b.buildUnit doc svc env = .ok (u, env')) :
    ((u.actions.map (·.responseTypeName)).Nodup ↔ (u.actions.map fun m => dropChars m.name ['-', '_']).Nodup) ∧
    ((∀ m ∈ u.actions, Naming.isPlainSnake m.requestFunctionName = true) →
      ((u.actions.map fun m => Naming.exportedName m.requestFunctionName).Nodup ↔
        (u.actions.map (·.requestFunctionName)).Nodup)) ∧
    (∀ m ∈ u.actions, (∀ f ∈ m.responseFields, Naming.isPlainSnake f.name = true) →
      ((m.responseFields.map fun f => Naming.exportedName f.name).Nodup ↔ (m.responseFields.map (·.name)).Nodup)) ∧
    (∀ m ∈ u.actions, (∀ p ∈ m.parameters, Naming.isPlainSnake p.name = true) →
      ((m.parameters.map fun p => Naming.parameterName p.name).Nodup ↔ (m.parameters.map (·.name)).Nodup)) ∧
    (∀ o : OutputSet, o.finalized = false → (o.finalize.aliases.map (· ++ "Response")).Nodup) := by
  refine ⟨?_, fun hplain => ?_, fun m _ hplain => ?_, fun m _ hplain => ?_, fun o ho => alias_keys_nodup ho⟩
  · -- a response type name is the raw name without separators, then a fixed suffix
    have hnames : u.actions.map (·.responseTypeName) =
        (u.actions.map fun m => dropChars m.name ['-', '_']).map (· ++ "Response") := by
      rw [List.map_map]
      exact List.map_congr_left fun m hm => Model.Builder.responseTypeName_of_mem_buildUnit h hm
    rw [hnames]
    exact List.nodup_map_iff fun x y hxy => (String.append_left_inj "Response").mp hxy
  · have hmap := Naming.nodup_map_exportedName_iff (List.forall_mem_map.mpr hplain)
    rwa [List.map_map] at hmap
  · have hmap := Naming.nodup_map_exportedName_iff (List.forall_mem_map.mpr hplain)
    rwa [List.map_map] at hmap
  · have hmap := Naming.nodup_map_parameterName_iff (List.forall_mem_map.mpr hplain)
    rwa [List.map_map] at hmap

/-- A device information service: `GetInfo` returns `NewEnable`, `SetEnable`
takes it. -/
def deviceInfoDescription : ServiceDescription :=
  { actions := [{ name := "GetInfo", arguments := [⟨"NewEnable", .output, "Enable"⟩] },
                { name := "SetEnable", arguments := [⟨"NewEnable", .input, "Enable"⟩] }],
    stateVariables := [{ name := "Enable", dataType := "boolean" }] }

/-- The unit the device information service builds into. -/
def deviceInfoUnit : ServiceUnit :=
  { serviceType := "urn:dslforum-org:service:DeviceInfo:1", name := "device_info",
    actions := [{ name := "GetInfo", responseTypeName := "GetInfoResponse", requestFunctionName := "get_info",
                  responseFields := [{ rawName := "NewEnable", name := "new_enable", type := .boolean }] },
                { name := "SetEnable", responseTypeName := "SetEnableResponse", requestFunctionName := "set_enable",
                  parameters := [{ rawName := "NewEnable", name := "new_enable", type := .boolean }] }] }

/-- The device information service builds, its names are plain, and so its
response types, request functions, fields and parameters are declared once
each. -/
theorem declared_names_of_device_info :
    ({} : Builder).buildUnit deviceInfoDescription { serviceType := "urn:dslforum-org:service:DeviceInfo:1" }
        .empty = .ok (deviceInfoUnit, NameSet.empty.add ["GetInfo", "SetEnable"]) ∧
    (∀ m ∈ deviceInfoUnit.actions, Naming.isPlainSnake m.requestFunctionName = true) ∧
    (∀ m ∈ deviceInfoUnit.actions, ∀ f ∈ m.responseFields, Naming.isPlainSnake f.name = true) ∧
    (∀ m ∈ deviceInfoUnit.actions, ∀ p ∈ m.parameters, Naming.isPlainSnake p.name = true) ∧
    ((deviceInfoUnit.actions.map (·.responseTypeName)).Nodup ↔
      (deviceInfoUnit.actions.map fun m => dropChars m.name ['-', '_']).Nodup) ∧
    ((∀ m ∈ deviceInfoUnit.actions, Naming.isPlainSnake m.requestFunctionName = true) →
      ((deviceInfoUnit.actions.map fun m => Naming.exportedName m.requestFunctionName).Nodup ↔
        (deviceInfoUnit.actions.map (·.requestFunctionName)).Nodup)) ∧
    (∀ m ∈ deviceInfoUnit.actions, (∀ f ∈ m.responseFields, Naming.isPlainSnake f.name = true) →
      ((m.responseFields.map fun f => Naming.exportedName f.name).Nodup ↔ (m.responseFields.map (·.name)).Nodup)) ∧
    (∀ m ∈ deviceInfoUnit.actions, (∀ p ∈ m.parameters, Naming.isPlainSnake p.name = true) →
      ((m.parameters.map fun p => Naming.parameterName p.name).Nodup ↔ (m.parameters.map (·.name)).Nodup)) ∧
    (∀ o : OutputSet, o.finalized = false → (o.finalize.aliases.map (· ++ "Response")).Nodup) := by
  have hbuild : ({} : Builder).buildUnit deviceInfoDescription { serviceType := "urn:dslforum-org:service:DeviceInfo:1" }
      .empty = .ok (deviceInfoUnit, NameSet.empty.add ["GetInfo", "SetEnable"]) :=
    eq_ok_of_toOption_eq_some (by decide +kernel)
  exact ⟨hbuild, by decide, by decide, by decide, declared_names_distinct_of_plain _ _ _ _ _ _ hbuild⟩

/-- A service with the actions `GetInfo` and `Get_Info` builds, and both
actions get the response type `GetInfoResponse`. -/
theorem response_types_collide_for_separated_action_names :
    ¬ ∀ u env', ({} : Builder).buildUnit { actions := [{ name := "GetInfo" }, { name := "Get_Info" }] }
        { serviceType := "urn:dslforum-org:service:DeviceInfo:1" } .empty = .ok (u, env') →
      (u.actions.map (·.responseTypeName)).Nodup := by
  intro hdistinct
  exact absurd (hdistinct _ _ rfl) (by decide)

end UpnpBind
