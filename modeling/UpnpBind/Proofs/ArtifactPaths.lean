import Mathlib.Data.List.Nodup
import UpnpBind.Layout
import UpnpBind.Proofs.SlashPath

/-!
# Where artifacts are written

The artifacts of a set are written at paths made of plain elements: the side
directory, the module and the module's file, or the side directory and the
manifest's file. When every module name of the set is a plain element and its
prefix has no slash, each artifact path is a relative path whose elements are
exactly those (`artifact_paths_safe`), and no two artifacts share a path,
because finalizing keeps each module name once and apart from the shared one.

Module names come from device-supplied service types, and nothing checks that
they are plain. A module name with a slash or a ".." element is cleaned away
by the join: `a/b` and `a//b` are kept as two modules and written at one path
(`artifact_paths_collide_for_slashed_names`), and a name that climbs with ".."
writes outside the output directory.
-/

namespace UpnpBind

open UpnpBind.Model UpnpBind.Text

/-! ## Plain names -/

/-- A slash-free text with some character other than a dot is a plain element. -/
theorem plainElement_of_mem {e : String} {c : Char} (hc : c ∈ e.toList) (hdot : c ≠ '.')
    (hslash : '/' ∉ e.toList) : PlainElement e where
  ne_empty := by
    rintro rfl
    cases hc
  ne_dot := by
    rintro rfl
    simp_all
  ne_dotDot := by
    rintro rfl
    simp_all
  no_slash := hslash

/-- Under a slash-free prefix, the module name of a plain name is plain. -/
theorem plainElement_moduleName {p name : String} (hp : '/' ∉ p.toList) (hname : PlainElement name) :
    PlainElement (moduleName p name) := by
  unfold moduleName
  split
  · exact hname
  · refine plainElement_of_mem (c := '_') (by simp) (by decide) ?_
    simp [hp, hname.no_slash]

/-- The file of a module: its name with the `.go` extension. -/
theorem plainElement_goFile {m : String} (hm : '/' ∉ m.toList) : PlainElement (m ++ ".go") :=
  plainElement_of_mem (c := 'g') (by simp) (by decide) (by simp [hm])

/-! ## The modules finalizing keeps -/

/-- The units `keepUnits` keeps have distinct module names, none of them
already taken, each the module name of one of the units it was given, for both
sides alike. -/
theorem keepUnits_modules (p : String) (seen : List String) (us : List ServiceUnit) :
    ((keepUnits p seen us).1.map (·.responseModule)).Nodup ∧
      ∀ k ∈ (keepUnits p seen us).1, k.responseModule ∉ seen ∧ k.requestModule = k.responseModule ∧
        ∃ u ∈ us, k.responseModule = moduleName p u.name := by
  induction us generalizing seen with
  | nil => simp [keepUnits]
  | cons u us ih =>
    by_cases hm : moduleName p u.name ∈ seen
    · -- a taken module name: the unit is skipped
      obtain ⟨hnodup, hkept⟩ := ih seen
      simp only [keepUnits, List.contains_iff_mem, hm, if_true]
      refine ⟨hnodup, fun k hk => ?_⟩
      obtain ⟨hseen, hreq, v, hv, hkv⟩ := hkept k hk
      exact ⟨hseen, hreq, v, List.mem_cons_of_mem _ hv, hkv⟩
    · -- a fresh module name: the unit is kept and its name taken
      obtain ⟨hnodup, hkept⟩ := ih (moduleName p u.name :: seen)
      simp only [keepUnits, List.contains_iff_mem, hm, if_false, List.map_cons, List.nodup_cons,
        List.mem_cons, forall_eq_or_imp]
      refine ⟨⟨fun hin => ?_, hnodup⟩, ⟨not_false, trivial, u, Or.inl rfl, rfl⟩, fun k hk => ?_⟩
      · obtain ⟨k, hk, hkm⟩ := List.mem_map.mp hin
        exact (hkept k hk).1 (hkm ▸ List.mem_cons_self ..)
      · obtain ⟨hseen, hreq, v, hv, hkv⟩ := hkept k hk
        exact ⟨fun h => hseen (List.mem_cons_of_mem _ h), hreq, v, Or.inr hv, hkv⟩

/-! ## The elements of the artifact paths -/

/-- The elements of the artifact paths of a set with prefix `p`, shared module
`shared` and unit modules `modules`, in the order of its artifacts: each unit's
response and request file, the two shared files, then the two manifests. -/
def artifactElements (p shared : String) (modules : List String) : List (List String) :=
  modules.flatMap (fun m => [[sideDir p responsesSide, m, m ++ ".go"], [sideDir p requestsSide, m, m ++ ".go"]]) ++
    [[sideDir p responsesSide, shared, shared ++ ".go"], [sideDir p requestsSide, shared, shared ++ ".go"],
     [sideDir p responsesSide, "doc.go"], [sideDir p requestsSide, "doc.go"]]

/-- The two sides of a set never share a directory. -/
theorem sideDir_responses_ne_requests (p : String) : sideDir p responsesSide ≠ sideDir p requestsSide := by
  unfold sideDir moduleName
  split
  · decide
  · intro h
    have hlist := congrArg String.toList h
    simp only [String.toList_append, List.append_cancel_left_eq] at hlist
    exact absurd hlist (by decide)

/-- Under a slash-free prefix, every element of every artifact path is plain,
when the shared module and the unit modules are. -/
theorem artifactElements_plain {p shared : String} {modules : List String} (hp : '/' ∉ p.toList)
    (hshared : PlainElement shared) (hmods : ∀ m ∈ modules, PlainElement m) :
    ∀ ps ∈ artifactElements p shared modules, ps ≠ [] ∧ ∀ e ∈ ps, PlainElement e := by
  have hR : PlainElement (sideDir p responsesSide) := plainElement_moduleName hp (by decide)
  have hQ : PlainElement (sideDir p requestsSide) := plainElement_moduleName hp (by decide)
  have hdoc : PlainElement "doc.go" := by decide
  intro ps hps
  simp only [artifactElements, List.mem_append, List.mem_flatMap, List.mem_cons, List.mem_nil_iff,
    or_false] at hps
  rcases hps with ⟨m, hm, rfl | rfl⟩ | rfl | rfl | rfl | rfl
  all_goals refine ⟨List.cons_ne_nil _ _, ?_⟩
  · simp [hR, hmods m hm, plainElement_goFile (hmods m hm).no_slash]
  · simp [hQ, hmods m hm, plainElement_goFile (hmods m hm).no_slash]
  · simp [hR, hshared, plainElement_goFile hshared.no_slash]
  · simp [hQ, hshared, plainElement_goFile hshared.no_slash]
  · simp [hR, hdoc]
  · simp [hQ, hdoc]

/-- Distinct unit modules, apart from the shared one, give distinct artifact paths. -/
theorem artifactElements_nodup {p shared : String} {modules : List String} (hmods : modules.Nodup)
    (hshared : shared ∉ modules) : (artifactElements p shared modules).Nodup := by
  have hRQ := sideDir_responses_ne_requests p
  -- the paths of two modules differ in their module element
  have hunits : (modules.flatMap fun m =>
      [[sideDir p responsesSide, m, m ++ ".go"], [sideDir p requestsSide, m, m ++ ".go"]]).Nodup := by
    refine List.nodup_flatMap.mpr ⟨fun m _ => by simp [hRQ], ?_⟩
    refine hmods.pairwise_of_forall_ne fun m _ m' _ hne => ?_
    simp [Function.onFun, Ne.symm hne]
  refine List.nodup_append.mpr ⟨hunits, by simp [hRQ], fun a ha b hb hab => ?_⟩
  subst hab
  simp only [List.mem_flatMap, List.mem_cons, List.mem_nil_iff, or_false] at ha
  obtain ⟨m, hm, rfl | rfl⟩ := ha <;>
    simp only [List.mem_cons, List.mem_nil_iff, or_false, List.cons.injEq] at hb <;>
    grind

/-! ## The artifact paths of a set -/

/-- The artifact paths of a set that is not finalized yet join the elements of
the modules finalizing keeps. -/
theorem artifacts_paths (o : OutputSet) (importPath : String) (hfin : o.finalized = false) :
    (o.artifacts importPath).map (·.path) =
      (artifactElements o.prefix_ (moduleName o.prefix_ sharedName)
        ((keepUnits o.prefix_ [moduleName o.prefix_ sharedName] o.units).1.map (·.responseModule))).map
          joinPath := by
  have hreq := fun k hk => ((keepUnits_modules o.prefix_ [moduleName o.prefix_ sharedName] o.units).2 k hk).2.1
  simp only [OutputSet.artifacts, OutputSet.finalize, hfin, Bool.false_eq_true, if_false, artifactElements,
    OutputSet.manifestArtifact, List.map_append, List.map_flatMap, List.flatMap_map, List.map_cons,
    List.map_nil]
  congr 1
  refine List.flatMap_congr fun k hk => ?_
  rw [hreq k hk]

/-- The artifacts of a set whose module names are plain elements, under a
prefix without slashes, are written at distinct paths, each relative and with
no ".." element: none overwrites another and none leaves the output
directory. -/
theorem artifact_paths_safe (o : OutputSet) (importPath : String) (hfin : o.finalized = false)
    (hnoSlash : '/' ∉ o.prefix_.toList) (hplain : ∀ u ∈ o.units, PlainElement (moduleName o.prefix_ u.name)) :
    ((o.artifacts importPath).map (·.path)).Nodup ∧
      ∀ path ∈ (o.artifacts importPath).map (·.path), path.startsWith "/" = false ∧ ".." ∉ split path '/' := by
  obtain ⟨hnodup, hkept⟩ := keepUnits_modules o.prefix_ [moduleName o.prefix_ sharedName] o.units
  -- every kept module is plain and apart from the shared one
  have hmods : ∀ m ∈ (keepUnits o.prefix_ [moduleName o.prefix_ sharedName] o.units).1.map (·.responseModule),
      PlainElement m := by
    intro m hm
    obtain ⟨k, hk, rfl⟩ := List.mem_map.mp hm
    obtain ⟨-, -, u, hu, hku⟩ := hkept k hk
    exact hku ▸ hplain u hu
  have hshared : moduleName o.prefix_ sharedName ∉
      (keepUnits o.prefix_ [moduleName o.prefix_ sharedName] o.units).1.map (·.responseModule) := by
    intro hm
    obtain ⟨k, hk, hks⟩ := List.mem_map.mp hm
    exact (hkept k hk).1 (hks ▸ List.mem_singleton_self _)
  have hplainElems := artifactElements_plain hnoSlash
    (plainElement_moduleName hnoSlash (by decide : PlainElement sharedName)) hmods
  -- the paths are the elements joined with single slashes
  rw [artifacts_paths o importPath hfin,
    List.map_congr_left fun ps hps => joinPath_of_plain (hplainElems ps hps).1 (hplainElems ps hps).2]
  refine ⟨(artifactElements_nodup hnodup hshared).map_on fun ps hps qs hqs heq => ?_, fun path hpath => ?_⟩
  · exact intercalate_inj (hplainElems ps hps).1 (hplainElems qs hqs).1
      (fun e he => ((hplainElems ps hps).2 e he).no_slash) (fun e he => ((hplainElems qs hqs).2 e he).no_slash) heq
  · obtain ⟨ps, hps, rfl⟩ := List.mem_map.mp hpath
    obtain ⟨hne, helems⟩ := hplainElems ps hps
    obtain ⟨e, es, rfl⟩ := List.exists_cons_of_ne_nil hne
    refine ⟨intercalate_startsWith_slash es (helems e (List.mem_cons_self ..)), ?_⟩
    rw [split_intercalate hne fun e he => (helems e he).no_slash]
    exact fun hdd => (helems ".." hdd).ne_dotDot rfl

/-- Two plain units under the prefix `fritz` are written at distinct relative
paths, none with a ".." element. -/
theorem artifact_paths_safe_under_fritz :
    ({ prefix_ := "fritz", units := [{ name := "wanip" }, { name := "hosts" }] } : OutputSet).finalized = false ∧
      '/' ∉ "fritz".toList ∧
      (∀ u ∈ [({ name := "wanip" } : ServiceUnit), { name := "hosts" }], PlainElement (moduleName "fritz" u.name)) ∧
      (((({ prefix_ := "fritz", units := [{ name := "wanip" }, { name := "hosts" }] } : OutputSet).artifacts
          "example.com/out").map (·.path)).Nodup ∧
        ∀ path ∈ (({ prefix_ := "fritz", units := [{ name := "wanip" }, { name := "hosts" }] } : OutputSet).artifacts
          "example.com/out").map (·.path), path.startsWith "/" = false ∧ ".." ∉ split path '/') :=
  ⟨rfl, by decide, by decide,
    artifact_paths_safe { prefix_ := "fritz", units := [{ name := "wanip" }, { name := "hosts" }] } "example.com/out"
      rfl (by decide) (by decide)⟩

/-- Units named `a/b` and `a//b` are kept as two modules, and their artifacts
are written at the same paths. -/
theorem artifact_paths_collide_for_slashed_names :
    ¬ ((((OutputSet.new "").addUnits
      [{ serviceType := "urn:x:service:a/b:1", serviceId := "id1", controlUrl := "/c1", scpdUrl := "/s1.xml",
         name := "a/b", device := "box" },
       { serviceType := "urn:x:service:a//b:1", serviceId := "id2", controlUrl := "/c2", scpdUrl := "/s2.xml",
         name := "a//b", device := "box" }]).artifacts "example.com/out").map (·.path)).Nodup := by
  decide +kernel

end UpnpBind
