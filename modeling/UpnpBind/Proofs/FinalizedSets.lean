import Mathlib.Data.String.Basic
import UpnpBind.Layout
import UpnpBind.Proofs.ArtifactPaths
import UpnpBind.Proofs.NameSet

/-!
# Finalizing an output set

Finalizing a set that is not finalized yet assigns module names and drops the
units whose module is taken: it keeps, in order, exactly the units whose
module differs from the shared module and from the module of every earlier
unit, each with both its module names set to its module and nothing else
changed (`keepUnits_fst`). Its aliases are the envelope names in strictly
increasing order, and both manifests are the strictly increasing list of the
shared module and every unit's module, which are the modules of the kept
units: a dropped unit's module is always the shared one or a kept unit's.

So the artifacts of a set are two per kept unit and four more, and each
manifest lists exactly the packages with an artifact on its side. Finalizing
the result again, even with its flag cleared, changes nothing
(`keepUnits_keepUnits`).

Main statement: `Model.OutputSet.finalize_keeps_first_unit_of_each_module`.
-/

namespace UpnpBind

open UpnpBind.Model

/-! ## Sorted names -/

theorem sortNames_perm (xs : List String) : (sortNames xs).Perm xs := List.mergeSort_perm _ _

theorem mem_sortNames {m : String} {xs : List String} : m ∈ sortNames xs ↔ m ∈ xs := List.mem_mergeSort

/-- Sorting distinct names puts them in strictly increasing order. -/
theorem sortNames_pairwise_lt {xs : List String} (h : xs.Nodup) : (sortNames xs).Pairwise (· < ·) :=
  NameSet.mergeSort_pairwise_lt h

/-! ## The units kept -/

section KeepUnits

variable (p : String)

theorem keepUnits_cons_of_mem {seen : List String} {u : ServiceUnit} {us : List ServiceUnit}
    (h : moduleName p u.name ∈ seen) : keepUnits p seen (u :: us) = keepUnits p seen us := by
  simp [keepUnits, h]

theorem keepUnits_cons_of_not_mem {seen : List String} {u : ServiceUnit} {us : List ServiceUnit}
    (h : moduleName p u.name ∉ seen) :
    keepUnits p seen (u :: us) =
      ({ u with requestModule := moduleName p u.name, responseModule := moduleName p u.name } ::
          (keepUnits p (moduleName p u.name :: seen) us).1,
        moduleName p u.name :: (keepUnits p (moduleName p u.name :: seen) us).2) := by
  simp only [keepUnits, List.contains_iff_mem, h, if_false]

/-- The units `keepUnits` keeps: in order, each unit whose module is neither
taken already nor the module of an earlier unit, with its module names set. -/
theorem keepUnits_fst (seen : List String) (us : List ServiceUnit) :
    (keepUnits p seen us).1 =
      (us.zipIdx.filter fun (u, i) =>
          moduleName p u.name ∉ seen ∧ ∀ v ∈ us.take i, moduleName p v.name ≠ moduleName p u.name).map
        fun (u, _) => { u with requestModule := moduleName p u.name, responseModule := moduleName p u.name } := by
  induction us generalizing seen with
  | nil => rfl
  | cons u us ih =>
    rw [List.zipIdx_cons', List.filter_cons]
    by_cases hm : moduleName p u.name ∈ seen
    · -- a taken module: the unit is skipped, and its module adds nothing to what later units avoid
      rw [if_neg (by simp [hm]), List.filter_map, List.map_map, keepUnits_cons_of_mem p hm, ih]
      congr 1
      refine List.filter_congr fun ⟨v, i⟩ _ => ?_
      simp only [Function.comp_apply, Prod.map_apply, id_eq, List.take_succ_cons, List.mem_cons, forall_eq_or_imp]
      by_cases hv : moduleName p v.name ∈ seen
      · simp [hv]
      · simp [hv, show moduleName p u.name ≠ moduleName p v.name from fun h => hv (h ▸ hm)]
    · -- a fresh module: the unit is kept, and later units avoid its module
      rw [if_pos (by simp [hm]), List.map_cons, List.filter_map, List.map_map, keepUnits_cons_of_not_mem p hm, ih]
      dsimp only
      congr 2
      refine List.filter_congr fun ⟨v, i⟩ _ => ?_
      simp only [Function.comp_apply, Prod.map_apply, id_eq, List.take_succ_cons, List.mem_cons,
        forall_eq_or_imp, not_or]
      by_cases hv : moduleName p v.name = moduleName p u.name
      · simp [hv]
      · simp [hv, Ne.symm hv]

/-- A unit kept is one of the units given, with its module names set. -/
theorem exists_of_mem_keepUnits_fst {seen : List String} {us : List ServiceUnit} {k : ServiceUnit}
    (hk : k ∈ (keepUnits p seen us).1) :
    ∃ u ∈ us, k = { u with requestModule := moduleName p u.name, responseModule := moduleName p u.name } := by
  induction us generalizing seen with
  | nil => cases hk
  | cons u us ih =>
    by_cases hm : moduleName p u.name ∈ seen
    · rw [keepUnits_cons_of_mem p hm] at hk
      obtain ⟨v, hv, rfl⟩ := ih hk
      exact ⟨v, List.mem_cons_of_mem _ hv, rfl⟩
    · rw [keepUnits_cons_of_not_mem p hm] at hk
      rcases List.mem_cons.mp hk with rfl | hk
      · exact ⟨u, List.mem_cons_self .., rfl⟩
      · obtain ⟨v, hv, rfl⟩ := ih hk
        exact ⟨v, List.mem_cons_of_mem _ hv, rfl⟩

/-- The modules `keepUnits` records are those of the units it keeps. -/
theorem keepUnits_snd (seen : List String) (us : List ServiceUnit) :
    (keepUnits p seen us).2 = (keepUnits p seen us).1.map (·.responseModule) := by
  induction us generalizing seen with
  | nil => rfl
  | cons u us ih =>
    simp only [keepUnits]
    split
    · exact ih seen
    · simp [ih]

/-- A module of one of the units given is taken already or recorded. -/
theorem mem_keepUnits_snd_iff (seen : List String) (us : List ServiceUnit) (m : String) :
    m ∈ seen ∨ m ∈ (keepUnits p seen us).2 ↔ m ∈ seen ∨ ∃ u ∈ us, moduleName p u.name = m := by
  induction us generalizing seen with
  | nil => simp [keepUnits]
  | cons u us ih =>
    by_cases hm : moduleName p u.name ∈ seen
    · -- a skipped unit's module is among those taken
      rw [keepUnits_cons_of_mem p hm, ih]
      simp only [List.mem_cons, or_and_right, exists_or, exists_eq_left]
      grind
    · -- a kept unit's module is recorded, and taken for the rest
      have hrest := ih (moduleName p u.name :: seen)
      rw [keepUnits_cons_of_not_mem p hm]
      simp only [List.mem_cons, or_and_right, exists_or, exists_eq_left] at hrest ⊢
      grind

/-- Keeping units again among those kept changes nothing: their modules are
distinct and fresh, and already set. -/
theorem keepUnits_keepUnits (seen : List String) (us : List ServiceUnit) :
    keepUnits p seen (keepUnits p seen us).1 = keepUnits p seen us := by
  induction us generalizing seen with
  | nil => rfl
  | cons u us ih =>
    by_cases hm : moduleName p u.name ∈ seen
    · rw [keepUnits_cons_of_mem p hm]
      exact ih seen
    · rw [keepUnits_cons_of_not_mem p hm]
      simp [keepUnits, hm, ih]

end KeepUnits

/-! ## Finalizing -/

namespace Model.OutputSet

variable {o : OutputSet}

/-- A set not finalized yet is finalized by keeping the first unit of each
module, sorting its envelope names into aliases and building its manifests. -/
theorem finalize_eq (h : o.finalized = false) :
    o.finalize =
      { o with sharedModule := moduleName o.prefix_ sharedName, aliases := o.envelopeNames.sorted,
               units := (keepUnits o.prefix_ [moduleName o.prefix_ sharedName] o.units).1,
               requestManifest := sortNames (moduleName o.prefix_ sharedName ::
                 (keepUnits o.prefix_ [moduleName o.prefix_ sharedName] o.units).2),
               responseManifest := sortNames (moduleName o.prefix_ sharedName ::
                 (keepUnits o.prefix_ [moduleName o.prefix_ sharedName] o.units).2),
               finalized := true } := by
  simp [finalize, h]

/-- A finalized set is finalized again as it is. -/
theorem finalize_of_finalized (h : o.finalized = true) : o.finalize = o := by
  simp [finalize, h]

/-- Finalizing a finalized set again with its flag cleared changes nothing
either: its units are kept as they are, and its aliases and manifests are
built again from the same names and modules. -/
theorem finalize_finalize_cleared (h : o.finalized = false) :
    { o.finalize with finalized := false }.finalize = o.finalize := by
  rw [finalize_eq h, finalize_eq rfl]
  simp only [keepUnits_keepUnits]

/-- The modules of a set's manifests: the shared module and the modules of
its kept units, which are also the modules of all its units. -/
theorem mem_manifest_iff (h : o.finalized = false) (m : String) :
    (m ∈ o.finalize.requestManifest ↔ m = moduleName o.prefix_ sharedName ∨ ∃ u ∈ o.units, moduleName o.prefix_ u.name = m) ∧
    (m ∈ o.finalize.requestManifest ↔ m = moduleName o.prefix_ sharedName ∨ ∃ k ∈ o.finalize.units, k.responseModule = m) := by
  have hall := mem_keepUnits_snd_iff o.prefix_ [moduleName o.prefix_ sharedName] o.units m
  rw [finalize_eq h]
  simp only [mem_sortNames, List.mem_cons, List.not_mem_nil, or_false] at hall ⊢
  refine ⟨hall, ?_⟩
  rw [keepUnits_snd, List.mem_map]

/-- The manifests of a set not finalized yet list its modules without repeats,
in strictly increasing order. -/
theorem manifest_pairwise_lt (h : o.finalized = false) : o.finalize.requestManifest.Pairwise (· < ·) := by
  obtain ⟨hnodup, hkept⟩ := keepUnits_modules o.prefix_ [moduleName o.prefix_ sharedName] o.units
  rw [finalize_eq h]
  refine sortNames_pairwise_lt (List.nodup_cons.mpr ⟨fun hs => ?_, ?_⟩)
  · rw [keepUnits_snd, List.mem_map] at hs
    obtain ⟨k, hk, hks⟩ := hs
    exact (hkept k hk).1 (hks ▸ List.mem_singleton_self _)
  · rw [keepUnits_snd]
    exact hnodup

end Model.OutputSet

/-! ## Artifacts -/

/-- The side of the package an artifact of this kind is rendered into:
response types and the envelope are on the responses side, request functions
and the request helper on the requests side; a manifest belongs to no package
of a side, nor does a kind of no template. -/
def ArtifactKind.side : ArtifactKind → Option String
  | .responseTypes | .sharedEnvelope => some responsesSide
  | .requestFunctions | .sharedRequest => some requestsSide
  | .moduleManifest | .other _ => none

/-- The package an artifact is rendered into. -/
def ArtifactData.package : ArtifactData → String
  | .unit pkg _ _ _ => pkg
  | .shared pkg _ _ => pkg
  | .manifest pkg _ _ _ => pkg

namespace Model.OutputSet

variable {o : OutputSet}

/-- A set has two artifacts per unit it keeps, and four more. -/
theorem length_artifacts (o : OutputSet) (importPath : String) :
    (o.artifacts importPath).length = 2 * o.finalize.units.length + 4 := by
  simp [artifacts, List.length_flatMap, Nat.mul_comm]

/-- The packages with an artifact on either side are the modules of the units
kept and the shared module. -/
theorem exists_artifact_on_side_iff (h : o.finalized = false) (importPath : String) {side : String}
    (hside : side = responsesSide ∨ side = requestsSide) (m : String) :
    (∃ a ∈ o.artifacts importPath, a.kind.side = some side ∧ a.data.package = m) ↔
      m = o.finalize.sharedModule ∨ ∃ k ∈ o.finalize.units, k.responseModule = m := by
  have hreq : ∀ k ∈ o.finalize.units, k.requestModule = k.responseModule := by
    rw [finalize_eq h]
    exact fun k hk => ((keepUnits_modules _ _ _).2 k hk).2.1
  have hsides : responsesSide ≠ requestsSide := by decide
  simp only [artifacts, manifestArtifact, List.mem_append, List.mem_flatMap, List.mem_cons, List.mem_nil_iff,
    or_false]
  constructor
  · rintro ⟨a, ⟨k, hk, rfl | rfl⟩ | rfl | rfl | rfl | rfl, hkind, rfl⟩ <;>
      simp only [ArtifactKind.side, ArtifactData.package, Option.some.injEq, reduceCtorEq] at hkind ⊢
    · exact .inr ⟨k, hk, rfl⟩
    · exact .inr ⟨k, hk, (hreq k hk).symm⟩
    · exact .inl trivial
    · exact .inl trivial
  · rintro (rfl | ⟨k, hk, rfl⟩) <;> rcases hside with rfl | rfl
    · exact ⟨_, .inr (.inl rfl), rfl, rfl⟩
    · exact ⟨_, .inr (.inr (.inl rfl)), rfl, rfl⟩
    · exact ⟨_, .inl ⟨k, hk, .inl rfl⟩, rfl, rfl⟩
    · exact ⟨_, .inl ⟨k, hk, .inr rfl⟩, rfl, hreq k hk⟩

/-- A unit artifact of a set is rendered from one of the units finalizing keeps. -/
theorem mem_finalize_units_of_mem_artifacts (importPath : String) {a : Artifact} (ha : a ∈ o.artifacts importPath)
    {pkg q : String} {u : ServiceUnit} {shared : Import} (hdata : a.data = .unit pkg q u shared) :
    u ∈ o.finalize.units := by
  simp only [artifacts, manifestArtifact, List.mem_append, List.mem_flatMap, List.mem_cons, List.mem_nil_iff,
    or_false] at ha
  rcases ha with ⟨k, hk, rfl | rfl⟩ | rfl | rfl | rfl | rfl <;>
    simp only [ArtifactData.unit.injEq, reduceCtorEq] at hdata
  · exact hdata.2.2.1 ▸ hk
  · exact hdata.2.2.1 ▸ hk

/-- Among a set's artifacts is the shared envelope, with the aliases of the finalized set. -/
theorem exists_sharedEnvelope_mem_artifacts (o : OutputSet) (importPath : String) :
    ∃ e ∈ o.artifacts importPath, e.kind = .sharedEnvelope ∧
      e.data = .shared o.finalize.sharedModule o.finalize.prefix_ o.finalize.aliases := by
  refine ⟨{ kind := .sharedEnvelope,
             path := Text.joinPath [sideDir o.finalize.prefix_ responsesSide, o.finalize.sharedModule,
               o.finalize.sharedModule ++ ".go"],
             data := .shared o.finalize.sharedModule o.finalize.prefix_ o.finalize.aliases }, ?_, rfl, rfl⟩
  simp [artifacts]

/-- A manifest among a set's artifacts is one side's, and lists the modules of
the set's manifests. -/
theorem manifest_of_mem_artifacts (importPath : String) {a : Artifact} (ha : a ∈ o.artifacts importPath)
    {dir q side : String} {mods : List Import} (hdata : a.data = .manifest dir q side mods) :
    (side = responsesSide ∨ side = requestsSide) ∧
      (mods.map (·.name) = o.finalize.responseManifest ∨ mods.map (·.name) = o.finalize.requestManifest) := by
  simp only [artifacts, manifestArtifact, List.mem_append, List.mem_flatMap, List.mem_cons, List.mem_nil_iff,
    or_false] at ha
  rcases ha with ⟨k, -, rfl | rfl⟩ | rfl | rfl | rfl | rfl <;>
    simp only [ArtifactData.manifest.injEq, reduceCtorEq] at hdata
  · obtain ⟨-, -, rfl, rfl⟩ := hdata
    exact ⟨.inl rfl, .inl (by simp [Function.comp_def])⟩
  · obtain ⟨-, -, rfl, rfl⟩ := hdata
    exact ⟨.inr rfl, .inr (by simp [Function.comp_def])⟩

/-- What finalizing the set `o` does, with the artifacts of the result for
the import path `importPath`. -/
structure Finalization (o : OutputSet) (importPath : String) : Prop where
  /-- The shared module is the module `multi_use` of the prefix. -/
  sharedModule_eq : o.finalize.sharedModule = moduleName o.prefix_ sharedName
  /-- The units kept are, in order, those whose module differs from the shared
  module and from the module of every earlier unit, each with both its module
  names set to that module and nothing else changed. -/
  units_eq : o.finalize.units =
    (o.units.zipIdx.filter fun (u, i) => moduleName o.prefix_ u.name ≠ moduleName o.prefix_ sharedName ∧
        ∀ v ∈ o.units.take i, moduleName o.prefix_ v.name ≠ moduleName o.prefix_ u.name).map
      (fun (u, _) => { u with requestModule := moduleName o.prefix_ u.name,
                              responseModule := moduleName o.prefix_ u.name })
  /-- The aliases are the envelope names, sorted into strictly increasing order. -/
  aliases_perm : o.finalize.aliases.Perm o.envelopeNames.names
  aliases_sorted : o.finalize.aliases.Pairwise (· < ·)
  /-- Both manifests are one strictly increasing list of modules: the shared
  module and the module of every unit, which are those of the units kept. -/
  manifests_eq : o.finalize.requestManifest = o.finalize.responseManifest
  manifest_sorted : o.finalize.requestManifest.Pairwise (· < ·)
  mem_manifest_iff : ∀ m, m ∈ o.finalize.requestManifest ↔
    m = moduleName o.prefix_ sharedName ∨ ∃ u ∈ o.units, moduleName o.prefix_ u.name = m
  mem_manifest_iff_kept : ∀ m, m ∈ o.finalize.requestManifest ↔
    m = moduleName o.prefix_ sharedName ∨ ∃ k ∈ o.finalize.units, k.responseModule = m
  /-- Two artifacts per unit kept, and four more. -/
  length_artifacts : (o.artifacts importPath).length = 2 * o.finalize.units.length + 4
  /-- Each manifest lists exactly the packages that have an artifact on its side. -/
  manifest_packages : ∀ a ∈ o.artifacts importPath, ∀ dir q side mods, a.data = .manifest dir q side mods →
    ∀ m, m ∈ mods.map (·.name) ↔ ∃ a' ∈ o.artifacts importPath, a'.kind.side = some side ∧ a'.data.package = m
  /-- Finalizing the result again, with its flag cleared or set, changes nothing. -/
  finalize_cleared : { o.finalize with finalized := false }.finalize = o.finalize
  finalize_finalize : o.finalize.finalize = o.finalize

/-- Finalizing a set not finalized yet keeps, in order, the first unit of each
module that is not the shared one, with its module names set and nothing else
changed; its aliases are its envelope names in strictly increasing order; both
manifests are the strictly increasing list of the shared module and the
modules of all its units, which are the modules of the units kept. So the set
has two artifacts per unit kept and four more, and each manifest lists exactly
the packages that have an artifact on its side. Finalizing the result again,
with its flag set or cleared, changes nothing. -/
theorem finalize_keeps_first_unit_of_each_module (o : OutputSet) (importPath : String) (h : o.finalized = false) :
    o.Finalization importPath := by
  have hshared : o.finalize.sharedModule = moduleName o.prefix_ sharedName := by rw [finalize_eq h]
  have hmanifests : o.finalize.requestManifest = o.finalize.responseManifest := by rw [finalize_eq h]
  refine ⟨hshared, ?_, ?_, ?_, hmanifests, manifest_pairwise_lt h, fun m => (mem_manifest_iff h m).1,
    fun m => (mem_manifest_iff h m).2, length_artifacts o importPath, ?_, finalize_finalize_cleared h,
    finalize_of_finalized (by rw [finalize_eq h])⟩
  · -- the modules taken are the shared one and those of the earlier units
    rw [finalize_eq h]
    dsimp only
    rw [keepUnits_fst]
    congr 1
    exact List.filter_congr fun ⟨u, i⟩ _ => by simp
  · rw [finalize_eq h]
    exact sortNames_perm _
  · rw [finalize_eq h]
    exact sortNames_pairwise_lt o.envelopeNames.nodup
  · intro a ha dir q side mods hdata m
    obtain ⟨hside, hmods⟩ := manifest_of_mem_artifacts importPath ha hdata
    rw [← hmanifests, or_self] at hmods
    rw [hmods, exists_artifact_on_side_iff h importPath hside, hshared]
    exact (mem_manifest_iff h m).2

/-- The set of three units, two of one module, finalized under the prefix
`tr064`. -/
theorem finalization_of_colliding_units :
    ({ prefix_ := "tr064", envelopeNames := NameSet.empty.add ["SetEnable", "GetInfo", "GetSecurityPort", "GetInfo"],
       units := [{ name := "wlan_configuration", device := "lan" }, { name := "device_info", device := "root" },
                 { name := "wlan_configuration", device := "wlan" }] } : OutputSet).finalized = false ∧
    ({ prefix_ := "tr064", envelopeNames := NameSet.empty.add ["SetEnable", "GetInfo", "GetSecurityPort", "GetInfo"],
       units := [{ name := "wlan_configuration", device := "lan" }, { name := "device_info", device := "root" },
                 { name := "wlan_configuration", device := "wlan" }] } : OutputSet).Finalization
      "example.com/fritz/output" :=
  ⟨rfl, finalize_keeps_first_unit_of_each_module _ _ rfl⟩

example :
    (({ prefix_ := "tr064",
        units := [{ name := "wlan_configuration", device := "lan" }, { name := "device_info", device := "root" },
                  { name := "wlan_configuration", device := "wlan" }] } : OutputSet).finalize.units.map
      (fun u => (u.device, u.requestModule))) =
      [("lan", "tr064_wlan_configuration"), ("root", "tr064_device_info")] := by decide

end Model.OutputSet

end UpnpBind
