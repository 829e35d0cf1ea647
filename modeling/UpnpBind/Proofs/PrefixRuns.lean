import Mathlib.Data.List.Induction
import UpnpBind.Proofs.RunResults
import UpnpBind.Proofs.FinalizedSets
import UpnpBind.Proofs.ActionModels

/-!
# Runs split by prefix

Roots of one prefix are walked into one set, in configuration order, and the
sets are rendered in the order their prefixes first appear. Placing what the
roots build one after another gives one set per prefix, holding the units built
for its roots (`foldl_placeBuilt`), so a run of a valid configuration, with a
fetcher whose answers do not depend on the log, succeeds exactly when the run
of the roots of each prefix does, and its files are theirs, prefix after prefix
(`runFiles_eq_ok_iff_by_prefix`).

A root walked again after it builds what it built the first time. Its units
come again after units with the same modules, which finalizing has already
kept or dropped, and its action names are already in the envelope, so the
finalized set is the same (`collectSet_insert_finalize`) and so is the whole
run (`runFiles_insert_root`).

Where the files of a prefix are written is another matter: module names are
joined into paths, and a name that climbs out of its directory can put a file
of one prefix among the directories of another.

Main statement: `generate_splits_by_prefix`.
-/

namespace UpnpBind

open UpnpBind.Description UpnpBind.Model UpnpBind.Render

/-! ## Lists -/

section Lists

theorem exists_of_forall₂_of_mem {α β : Type} {R : α → β → Prop} {xs : List α} {ys : List β}
    (h : List.Forall₂ R xs ys) {x : α} (hx : x ∈ xs) : ∃ y ∈ ys, R x y := by
  induction h with
  | nil => cases hx
  | cons hxy _ ih =>
    rcases List.mem_cons.mp hx with rfl | hx
    · exact ⟨_, List.mem_cons_self .., hxy⟩
    · obtain ⟨y, hy, hr⟩ := ih hx
      exact ⟨y, List.mem_cons_of_mem _ hy, hr⟩

theorem forall₂_iff_of_mem {α β : Type} {R S : α → β → Prop} {xs : List α} {ys : List β}
    (h : ∀ x ∈ xs, ∀ y, R x y ↔ S x y) : List.Forall₂ R xs ys ↔ List.Forall₂ S xs ys := by
  constructor
  · intro hR
    exact ((List.forall₂_and_left _ _).mpr ⟨fun x hx => hx, hR⟩).imp fun x y hxy => (h x hxy.1 y).mp hxy.2
  · intro hS
    exact ((List.forall₂_and_left _ _).mpr ⟨fun x hx => hx, hS⟩).imp fun x y hxy => (h x hxy.1 y).mpr hxy.2

theorem eraseDups_eq_singleton {l : List String} {p : String} (hne : l ≠ []) (hall : ∀ x ∈ l, x = p) :
    l.eraseDups = [p] := by
  cases l with
  | nil => contradiction
  | cons a l =>
    obtain rfl := hall a (List.mem_cons_self ..)
    have hrest : l.filter (fun b => !b == a) = [] :=
      List.filter_eq_nil_iff.mpr fun x hx => by simp [hall x (List.mem_cons_of_mem _ hx)]
    rw [List.eraseDups_cons, hrest]
    rfl

end Lists

/-! ## The sets of the prefixes -/

section Sets

/-- The set of prefix `q` after some builds: every unit built for a root of
that prefix, merged in order into an empty set. -/
def collectSet (builds : List (String × List (ServiceUnit × NameSet))) (q : String) : OutputSet :=
  ((builds.filter (·.1 == q)).flatMap (·.2)).foldl Walker.merge (OutputSet.new q)

variable {builds : List (String × List (ServiceUnit × NameSet))}

theorem collectSet_prefix_eq (builds : List (String × List (ServiceUnit × NameSet))) (q : String) :
    (collectSet builds q).prefix_ = q := by
  rw [collectSet, Walker.foldl_merge]
  rfl

theorem collectSet_append_singleton (b : String × List (ServiceUnit × NameSet)) (q : String) :
    collectSet (builds ++ [b]) q = if b.1 = q then b.2.foldl Walker.merge (collectSet builds q) else collectSet builds q := by
  unfold collectSet
  by_cases hq : b.1 = q
  · simp [hq, List.filter_append, List.flatMap_append, List.foldl_append]
  · simp [hq, List.filter_append]

theorem collectSet_of_not_mem {q : String} (h : q ∉ builds.map (·.1)) : collectSet builds q = OutputSet.new q := by
  have hnone : builds.filter (·.1 == q) = [] := by
    rw [List.filter_eq_nil_iff]
    intro b hb hbq
    exact h (List.mem_map.mpr ⟨b, hb, by simpa using hbq⟩)
  rw [collectSet, hnone]
  rfl

/-- The first set of prefix `q` among sets, one per prefix of `ps`, is the one of `q`. -/
theorem find?_map_collectSet (ps : List String) (q : String) :
    (ps.map (collectSet builds)).find? (·.prefix_ == q) = if q ∈ ps then some (collectSet builds q) else none := by
  induction ps with
  | nil => simp
  | cons p ps ih =>
    by_cases hp : p = q
    · subst hp
      simp [collectSet_prefix_eq]
    · have hpq : ¬ (p == q) = true := by simpa using hp
      simp only [List.map_cons, List.find?_cons, collectSet_prefix_eq, hpq, ih, List.mem_cons]
      simp [Ne.symm hp]

/-- Some set, one per prefix of `ps`, has the prefix `q` exactly when `q` is among them. -/
theorem any_map_collectSet (ps : List String) (q : String) :
    (ps.map (collectSet builds)).any (·.prefix_ == q) = decide (q ∈ ps) := by
  induction ps with
  | nil => rfl
  | cons p ps ih =>
    rw [List.map_cons, List.any_cons, ih, collectSet_prefix_eq]
    by_cases hp : p = q
    · simp [hp]
    · simp [hp, Ne.symm hp]

/-- Placing one more build over the sets of the builds before it gives the sets
of them all: the build merged into the set of its prefix where that set
stands, or a new set after the others. -/
theorem placeBuilt_collectSets (xs : List (String × List (ServiceUnit × NameSet)))
    (b : String × List (ServiceUnit × NameSet)) :
    placeBuilt ((xs.map (·.1)).eraseDups.map (collectSet xs)) b =
      ((xs ++ [b]).map (·.1)).eraseDups.map (collectSet (xs ++ [b])) := by
  rw [placeBuilt, find?_map_collectSet, List.map_append, List.map_singleton]
  have hplaced : (b.2.foldl Walker.merge ((if b.1 ∈ (xs.map (·.1)).eraseDups then some (collectSet xs b.1) else none).getD
      (OutputSet.new b.1))).prefix_ = b.1 := by
    rw [Walker.foldl_merge]
    split <;> simp [collectSet_prefix_eq, OutputSet.new]
  by_cases hb : b.1 ∈ xs.map (·.1)
  · -- the set of the prefix is merged into where it stands
    have hmem : b.1 ∈ (xs.map (·.1)).eraseDups := List.mem_eraseDups.mpr hb
    rw [if_pos hmem, Option.getD_some] at hplaced ⊢
    rw [NameSet.eraseDups_append_cons_of_mem hb, List.append_nil, placeSet, hplaced, any_map_collectSet,
      decide_eq_true hmem, if_pos rfl, List.map_map]
    refine List.map_congr_left fun q _ => ?_
    by_cases hq : b.1 = q
    · subst hq
      simp [collectSet_prefix_eq, collectSet_append_singleton]
    · simp [collectSet_prefix_eq, collectSet_append_singleton, hq, Ne.symm hq]
  · -- a new set, after the others
    have hmem : b.1 ∉ (xs.map (·.1)).eraseDups := fun h => hb (List.mem_eraseDups.mp h)
    rw [if_neg hmem, Option.getD_none] at hplaced ⊢
    have hnew : collectSet xs b.1 = OutputSet.new b.1 := collectSet_of_not_mem hb
    have hrest : [b.1].removeAll (xs.map (·.1)) = [b.1] := by simp [List.removeAll, hb]
    rw [placeSet, hplaced, any_map_collectSet, decide_eq_false hmem, if_neg Bool.false_ne_true, List.eraseDups_append,
      List.map_append, hrest]
    congr 1
    · refine List.map_congr_left fun q hq => ?_
      have hbq : b.1 ≠ q := fun h => hmem (h ▸ hq)
      simp [collectSet_append_singleton, hbq]
    · have hsingle : [b.1].eraseDups = [b.1] := rfl
      rw [hsingle, List.map_singleton, collectSet_append_singleton, if_pos rfl, hnew]

/-- Placing the builds one after another gives one set per prefix, in the order
the prefixes first appear, each holding the units built for its roots. -/
theorem foldl_placeBuilt (builds : List (String × List (ServiceUnit × NameSet))) :
    builds.foldl placeBuilt [] = (builds.map (·.1)).eraseDups.map (collectSet builds) := by
  induction builds using List.reverseRecOn with
  | nil => rfl
  | append_singleton xs b ih => rw [List.foldl_append, List.foldl_cons, List.foldl_nil, ih, placeBuilt_collectSets]

end Sets

/-! ## Configurations with other roots -/

namespace Config

/-- The configuration with only the roots of prefix `p`. -/
def restrict (c : Config) (p : String) : Config := { c with roots := c.roots.filter (·.prefix_ == p) }

/-- The prefixes of the roots, in the order they first appear. -/
def prefixes (c : Config) : List String := (c.roots.map (·.prefix_)).eraseDups

theorem rootProblem_eq_none_iff (i : Nat) (rs : List Root) :
    rootProblem i rs = none ↔
      ∀ r ∈ rs, Text.trimBlank r.description ≠ "" ∧ (r.prefix_ = "" ∨ isIdentifier r.prefix_ = true) := by
  induction rs generalizing i with
  | nil => simp [rootProblem]
  | cons r rs ih =>
    simp only [rootProblem]
    split_ifs with hdesc hplaced
    · simp_all
    · simp_all
    · rw [ih, List.forall_mem_cons]
      have hd : Text.trimBlank r.description ≠ "" := by simpa using hdesc
      have hr : r.prefix_ = "" ∨ isIdentifier r.prefix_ = true := by
        by_cases hp : r.prefix_ = "" <;> simp_all
      simp [hd, hr]

theorem validate_eq_none_roots {c : Config} (h : c.validate = none) : c.roots ≠ [] ∧ rootProblem 0 c.roots = none := by
  simp only [validate] at h
  split at h
  · cases h
  · -- every other check passed, the one of the roots among them
    split_ifs at h with houtput hpar htimeout hempty
    split at h
    · cases h
    · rename_i hproblem
      exact ⟨by simpa using hempty, hproblem⟩

/-- Validating depends on the roots only through whether there are any and the
first problem among them. -/
theorem validate_withRoots (c : Config) (rs : List Root) (hempty : rs.isEmpty = c.roots.isEmpty)
    (hproblem : rootProblem 0 rs = rootProblem 0 c.roots) : { c with roots := rs }.validate = c.validate := by
  simp only [validate, hempty, hproblem]
  rfl

theorem validate_withRoots_eq_none {c : Config} (h : c.validate = none) {rs : List Root} (hne : rs ≠ [])
    (hsub : ∀ r ∈ rs, r ∈ c.roots) : { c with roots := rs }.validate = none := by
  obtain ⟨hroots, hproblem⟩ := validate_eq_none_roots h
  have hrs : rootProblem 0 rs = none :=
    (rootProblem_eq_none_iff 0 rs).mpr fun r hr => (rootProblem_eq_none_iff 0 c.roots).mp hproblem r (hsub r hr)
  have hempty : rs.isEmpty = c.roots.isEmpty := by
    rw [List.isEmpty_eq_false_iff.mpr hne, List.isEmpty_eq_false_iff.mpr hroots]
  rw [validate_withRoots c rs hempty (by rw [hrs, hproblem]), h]

theorem validate_restrict {c : Config} (h : c.validate = none) {p : String} (hp : p ∈ c.prefixes) :
    (c.restrict p).validate = none := by
  rw [prefixes, List.mem_eraseDups, List.mem_map] at hp
  obtain ⟨r, hr, rfl⟩ := hp
  exact validate_withRoots_eq_none h (List.ne_nil_of_mem (List.mem_filter.mpr ⟨hr, by simp⟩))
    fun x hx => (List.mem_filter.mp hx).1

end Config

/-! ## Units merged again -/

section Repeats

variable (p : String)

/-- Units whose modules are all taken are skipped. -/
theorem keepUnits_append_of_mem_seen {seen : List String} {vs : List ServiceUnit} (ws : List ServiceUnit)
    (h : ∀ v ∈ vs, moduleName p v.name ∈ seen) : keepUnits p seen (vs ++ ws) = keepUnits p seen ws := by
  induction vs with
  | nil => rfl
  | cons v vs ih =>
    rw [List.cons_append, keepUnits_cons_of_mem p (h v (List.mem_cons_self ..))]
    exact ih fun v' hv' => h v' (List.mem_cons_of_mem _ hv')

/-- Units whose modules are taken, or are the modules of units before, change
nothing finalizing keeps when they come again after those units. -/
theorem keepUnits_append_repeat {seen : List String} {us vs : List ServiceUnit} (ws : List ServiceUnit)
    (h : ∀ v ∈ vs, moduleName p v.name ∈ seen ∨ ∃ u ∈ us, moduleName p u.name = moduleName p v.name) :
    keepUnits p seen (us ++ vs ++ ws) = keepUnits p seen (us ++ ws) := by
  induction us generalizing seen with
  | nil =>
    refine keepUnits_append_of_mem_seen p ws fun v hv => ?_
    simpa using h v hv
  | cons u us ih =>
    by_cases hu : moduleName p u.name ∈ seen
    · rw [List.cons_append, List.cons_append, List.cons_append, keepUnits_cons_of_mem p hu,
        keepUnits_cons_of_mem p hu]
      refine ih fun v hv => ?_
      rcases h v hv with hseen | ⟨u', hu', hmod⟩
      · exact .inl hseen
      · rcases List.mem_cons.mp hu' with rfl | hu'
        · exact .inl (hmod ▸ hu)
        · exact .inr ⟨u', hu', hmod⟩
    · rw [List.cons_append, List.cons_append, List.cons_append, keepUnits_cons_of_not_mem p hu,
        keepUnits_cons_of_not_mem p hu, ih]
      intro v hv
      rcases h v hv with hseen | ⟨u', hu', hmod⟩
      · exact .inl (List.mem_cons_of_mem _ hseen)
      · rcases List.mem_cons.mp hu' with rfl | hu'
        · exact .inl (hmod ▸ List.mem_cons_self ..)
        · exact .inr ⟨u', hu', hmod⟩

/-- Merging again units already merged changes nothing about the finalized
set: their modules are taken by then, and their names are there. -/
theorem finalize_foldl_merge_repeat {o : OutputSet} (h : o.finalized = false) {L R : List (ServiceUnit × NameSet)}
    (L' : List (ServiceUnit × NameSet)) (hR : ∀ x ∈ R, x ∈ L) :
    ((L ++ R ++ L').foldl Walker.merge o).finalize = ((L ++ L').foldl Walker.merge o).finalize := by
  have hunits : keepUnits o.prefix_ [moduleName o.prefix_ sharedName] (o.units ++ (L ++ R ++ L').map (·.1)) =
      keepUnits o.prefix_ [moduleName o.prefix_ sharedName] (o.units ++ (L ++ L').map (·.1)) := by
    simp only [List.map_append, ← List.append_assoc]
    refine keepUnits_append_repeat _ _ fun v hv => .inr ⟨v, ?_, rfl⟩
    obtain ⟨x, hx, rfl⟩ := List.mem_map.mp hv
    exact List.mem_append_right _ (List.mem_map_of_mem (hR x hx))
  have hnames : o.envelopeNames.add ((L ++ R ++ L').flatMap (·.2.names)) =
      o.envelopeNames.add ((L ++ L').flatMap (·.2.names)) := by
    rw [List.flatMap_append, List.flatMap_append, List.flatMap_append, NameSet.add_append, NameSet.add_append,
      NameSet.add_append]
    congr 1
    refine NameSet.add_of_subset fun y hy => NameSet.mem_names_add.mpr (.inr ?_)
    obtain ⟨x, hx, hy⟩ := List.mem_flatMap.mp hy
    exact List.mem_flatMap.mpr ⟨x, hR x hx, hy⟩
  have hmerged : ∀ us names, ({ o with units := us, envelopeNames := names } : OutputSet).finalized = false :=
    fun _ _ => h
  rw [Walker.foldl_merge, Walker.foldl_merge, OutputSet.finalize_eq (hmerged _ _), OutputSet.finalize_eq (hmerged _ _)]
  simp only [hunits, hnames]

/-- Inserting a build that came before changes nothing about the finalized
set of any prefix. -/
theorem collectSet_insert_finalize {as bs : List (String × List (ServiceUnit × NameSet))}
    {b : String × List (ServiceUnit × NameSet)} (hb : b ∈ as) (q : String) :
    (collectSet (as ++ b :: bs) q).finalize = (collectSet (as ++ bs) q).finalize := by
  unfold collectSet
  rw [List.filter_append, List.filter_cons, List.filter_append]
  by_cases hq : b.1 = q
  · have hbq : b ∈ as.filter (·.1 == q) := List.mem_filter.mpr ⟨hb, by simp [hq]⟩
    rw [if_pos (by simp [hq]), List.flatMap_append, List.flatMap_cons, List.flatMap_append, ← List.append_assoc]
    exact finalize_foldl_merge_repeat rfl _ fun x hx => List.mem_flatMap.mpr ⟨b, hbq, hx⟩
  · rw [if_neg (by simp [hq])]

end Repeats

/-! ## Runs of other configurations -/

section Runs

variable {c : Config} {fetch : Fetch.Fetcher} {cancelled : Bool}

/-- A root builds for its own prefix. -/
theorem rootBuilt_fst {r : Root} {b : String × List (ServiceUnit × NameSet)}
    (h : rootBuilt c fetch cancelled r = .ok b) : b.1 = r.prefix_ := by
  unfold rootBuilt at h
  cases hd : (describe fetch (c.descriptionUrl r)).result with
  | error e => simp [hd, bind, Except.bind] at h
  | ok d =>
    cases hw : c.walker.builtUnits fetch (.ofCancelled cancelled) d.device with
    | error e => simp [hd, hw, bind, Except.bind, throw, throwThe, MonadExceptOf.throw] at h
    | ok built =>
      simp only [hd, hw, bind, Except.bind, pure, Except.pure, Except.ok.injEq] at h
      rw [← h]

theorem map_fst_of_mapM_rootBuilt {rs : List Root} {builds : List (String × List (ServiceUnit × NameSet))}
    (h : rs.mapM (rootBuilt c fetch cancelled) = .ok builds) : builds.map (·.1) = rs.map (·.prefix_) := by
  have hall := mapM_eq_ok_iff.mp h
  clear h
  induction hall with
  | nil => rfl
  | cons hb _ ih => rw [List.map_cons, List.map_cons, rootBuilt_fst hb, ih]

/-- A run is its roots' builds placed into one set per prefix, in the order the
prefixes first appear, then rendered. -/
theorem runFiles_eq (c : Config) (fetch : Fetch.Fetcher) (cancelled : Bool) :
    c.runFiles fetch cancelled =
      c.roots.mapM (rootBuilt c fetch cancelled) >>= fun builds =>
        ((builds.map (·.1)).eraseDups.map (collectSet builds)).mapM (setFiles c.importPath) >>= fun files =>
          pure files.flatten := by
  simp only [Config.runFiles, foldl_placeBuilt]

theorem rootBuilt_withRoots (rs : List Root) : rootBuilt { c with roots := rs } = rootBuilt c := rfl

/-- When every root builds, the run of the roots of one prefix renders the set
of that prefix. -/
theorem runFiles_restrict {builds : List (String × List (ServiceUnit × NameSet))}
    (hb : c.roots.mapM (rootBuilt c fetch cancelled) = .ok builds) {p : String} (hp : p ∈ c.prefixes) :
    (c.restrict p).runFiles fetch cancelled = setFiles c.importPath (collectSet builds p) := by
  have hall := mapM_eq_ok_iff.mp hb
  have hfilter : List.Forall₂ (fun r b => rootBuilt c fetch cancelled r = .ok b)
      (c.roots.filter (·.prefix_ == p)) (builds.filter (·.1 == p)) :=
    List.rel_filter (fun r b hrb => show (r.prefix_ == p) = true ↔ (b.1 == p) = true by rw [rootBuilt_fst hrb]) hall
  -- some root has the prefix, so the builds of the prefix are not empty
  have hne : builds.filter (·.1 == p) ≠ [] := by
    rw [Config.prefixes, List.mem_eraseDups, ← map_fst_of_mapM_rootBuilt hb, List.mem_map] at hp
    obtain ⟨b, hb, rfl⟩ := hp
    exact List.ne_nil_of_mem (List.mem_filter.mpr ⟨hb, by simp⟩)
  have hprefixes : ((builds.filter (·.1 == p)).map (·.1)).eraseDups = [p] := by
    refine eraseDups_eq_singleton (by simpa using hne) fun x hx => ?_
    obtain ⟨b, hb, rfl⟩ := List.mem_map.mp hx
    simpa using (List.mem_filter.mp hb).2
  have hcollect : collectSet (builds.filter (·.1 == p)) p = collectSet builds p := by
    unfold collectSet
    rw [List.filter_filter]
    simp
  rw [runFiles_eq, Config.restrict, rootBuilt_withRoots, mapM_eq_ok_iff.mpr hfilter]
  simp only [bind, Except.bind, hprefixes, List.map_singleton, hcollect]
  cases hs : setFiles c.importPath (collectSet builds p) <;>
    simp [hs, List.mapM_cons, bind, Except.bind, pure, Except.pure]

/-- A root that fails to build fails the run of the roots of its prefix. -/
theorem runFiles_restrict_ne_ok {r : Root} (hr : r ∈ c.roots) {e : Error} (he : rootBuilt c fetch cancelled r = .error e)
    (files : List OutputFile) : (c.restrict r.prefix_).runFiles fetch cancelled ≠ .ok files := by
  have hmem : r ∈ c.roots.filter (·.prefix_ == r.prefix_) := List.mem_filter.mpr ⟨hr, by simp⟩
  rw [runFiles_eq, Config.restrict, rootBuilt_withRoots]
  cases hm : (c.roots.filter (·.prefix_ == r.prefix_)).mapM (rootBuilt c fetch cancelled) with
  | error e' => simp [bind, Except.bind]
  | ok bs => exact absurd hm (mapM_ne_ok_of_mem hmem he bs)

/-- A run succeeds exactly when the run of the roots of each prefix does, and
its files are theirs, prefix after prefix in the order the prefixes first
appear. -/
theorem runFiles_eq_ok_iff_by_prefix (files : List OutputFile) :
    c.runFiles fetch cancelled = .ok files ↔
      ∃ parts, List.Forall₂ (fun p fs => (c.restrict p).runFiles fetch cancelled = .ok fs) c.prefixes parts ∧
        files = parts.flatten := by
  cases hB : c.roots.mapM (rootBuilt c fetch cancelled) with
  | error e =>
    -- a root fails, and with it the run of its prefix
    obtain ⟨pre, r, post, hroots, -, hr⟩ := mapM_eq_error_iff.mp hB
    have hrmem : r ∈ c.roots := by simp [hroots]
    have hp : r.prefix_ ∈ c.prefixes := List.mem_eraseDups.mpr (List.mem_map_of_mem hrmem)
    constructor
    · intro h
      rw [runFiles_eq, hB] at h
      cases h
    · rintro ⟨parts, hparts, -⟩
      obtain ⟨fs, -, hfs⟩ := exists_of_forall₂_of_mem hparts hp
      exact (runFiles_restrict_ne_ok hrmem hr fs hfs).elim
  | ok builds =>
    -- every root builds: the run of each prefix renders the set of the prefix
    have hprefixes : (builds.map (·.1)).eraseDups = c.prefixes := by
      rw [map_fst_of_mapM_rootBuilt hB]
      rfl
    have hparts : ∀ parts, List.Forall₂ (fun p fs => (c.restrict p).runFiles fetch cancelled = .ok fs) c.prefixes parts ↔
        (c.prefixes.map (collectSet builds)).mapM (setFiles c.importPath) = .ok parts := by
      intro parts
      rw [mapM_eq_ok_iff, List.forall₂_map_left_iff]
      exact forall₂_iff_of_mem fun p hp fs => by rw [runFiles_restrict hB hp]
    rw [runFiles_eq, hB]
    simp only [bind, Except.bind, hprefixes]
    constructor
    · intro h
      cases hm : (c.prefixes.map (collectSet builds)).mapM (setFiles c.importPath) with
      | error e => simp [hm] at h
      | ok parts =>
        simp only [hm, pure, Except.pure, Except.ok.injEq] at h
        exact ⟨parts, (hparts parts).mpr hm, h.symm⟩
    · rintro ⟨parts, hp, rfl⟩
      rw [(hparts parts).mp hp]
      rfl

/-- Walking a root again after it was walked changes nothing about a run. -/
theorem runFiles_insert_root {A B : List Root} {r : Root} (hr : r ∈ A) (hroots : c.roots = A ++ B) :
    ({ c with roots := A ++ r :: B } : Config).runFiles fetch cancelled = c.runFiles fetch cancelled := by
  rw [runFiles_eq, runFiles_eq, rootBuilt_withRoots, hroots, List.mapM_append, List.mapM_append]
  cases hA : A.mapM (rootBuilt c fetch cancelled) with
  | error e => rfl
  | ok as =>
    -- the copy builds what the root built the first time
    obtain ⟨br, hbr, hbuilt⟩ := exists_of_forall₂_of_mem (mapM_eq_ok_iff.mp hA) hr
    rw [List.mapM_cons, hbuilt]
    cases hB : B.mapM (rootBuilt c fetch cancelled) with
    | error e => rfl
    | ok bs =>
      have hP : ((as ++ br :: bs).map (·.1)).eraseDups = ((as ++ bs).map (·.1)).eraseDups := by
        rw [List.map_append, List.map_cons, List.map_append,
          NameSet.eraseDups_append_cons_of_mem (List.mem_map_of_mem hbr)]
      have hsets : (setFiles c.importPath ∘ collectSet (as ++ br :: bs)) =
          setFiles c.importPath ∘ collectSet (as ++ bs) := by
        funext q
        simp only [Function.comp_apply, setFiles, collectSet_insert_finalize hbr]
      simp only [bind, Except.bind, pure, Except.pure]
      rw [hP, List.mapM_map, List.mapM_map, hsets]

end Runs

/-! ## Runs by prefix -/

/-- How the runs of a configuration relate: a run succeeds exactly when the run
of the roots of each prefix does, and its files are theirs, prefix after prefix
in the order the prefixes first appear; and walking a root again, anywhere
after it, changes nothing, neither the files nor their order nor the error. -/
structure Config.RunsByPrefix (c : Config) (fetch : Fetch.Fetcher) (cancelled : Bool) : Prop where
  ok_iff : ∀ files, (generate c fetch cancelled).result = .ok files ↔
    ∃ parts, List.Forall₂ (fun p fs => (generate (c.restrict p) fetch cancelled).result = .ok fs) c.prefixes parts ∧
      files = parts.flatten
  repeated_root : ∀ pre r mid post, c.roots = pre ++ r :: (mid ++ post) →
    (generate { c with roots := pre ++ r :: (mid ++ r :: post) } fetch cancelled).result =
      (generate c fetch cancelled).result

/-- A run of a valid configuration, with a fetcher whose answers do not depend
on the log, splits by prefix and ignores roots walked again. -/
theorem generate_splits_by_prefix {c : Config} {fetch : Fetch.Fetcher} (cancelled : Bool) (hvalid : c.validate = none)
    (hfetch : ∀ url, Logged.IgnoresLog (fetch url)) : c.RunsByPrefix fetch cancelled := by
  refine ⟨fun files => ?_, fun pre r mid post hroots => ?_⟩
  · -- each run of a prefix is valid, so it gives what its roots build
    have hparts : ∀ parts, List.Forall₂ (fun p fs => (generate (c.restrict p) fetch cancelled).result = .ok fs)
        c.prefixes parts ↔ List.Forall₂ (fun p fs => (c.restrict p).runFiles fetch cancelled = .ok fs) c.prefixes parts :=
      fun parts => forall₂_iff_of_mem fun p hp fs => by
        rw [Logged.result_eq, generate_runFrom_fst (Config.validate_restrict hvalid hp) hfetch]
    rw [Logged.result_eq, generate_runFrom_fst hvalid hfetch, runFiles_eq_ok_iff_by_prefix]
    simp only [hparts]
  · -- the copy is a valid root, walked after the root it repeats
    have hsplit : pre ++ r :: (mid ++ r :: post) = (pre ++ r :: mid) ++ r :: post := by simp
    have hvalid' : ({ c with roots := pre ++ r :: (mid ++ r :: post) } : Config).validate = none := by
      refine Config.validate_withRoots_eq_none hvalid (by simp) fun x hx => ?_
      rw [hroots]
      simp only [List.mem_append, List.mem_cons] at hx ⊢
      rcases hx with hx | rfl | hx | rfl | hx
      · exact .inl hx
      · exact .inr (.inl rfl)
      · exact .inr (.inr (.inl hx))
      · exact .inr (.inl rfl)
      · exact .inr (.inr (.inr hx))
    rw [Logged.result_eq, Logged.result_eq, generate_runFrom_fst hvalid' hfetch, generate_runFrom_fst hvalid hfetch,
      hsplit]
    exact runFiles_insert_root (by simp) (by rw [hroots]; simp)

/-- A fetcher from memory answers whatever the log. -/
theorem fromMemory_ignoresLog (docs : List (String × String)) (cancelled : Bool) (url : String) :
    Logged.IgnoresLog (Fetch.fromMemory docs cancelled url) := by
  unfold Fetch.fromMemory
  split
  · exact Logged.ignoresLog_throw _
  · split
    · exact Logged.ignoresLog_pure _
    · split
      · exact Logged.ignoresLog_pure _
      · exact Logged.ignoresLog_throw _

/-- The standard roots, read from a snapshot, split by prefix. -/
theorem standard_runs_by_prefix :
    ({ Config.standard with fromDir := "snapshot" } : Config).validate = none ∧
      (∀ url, Logged.IgnoresLog (Fetch.fromMemory [] false url)) ∧
      ({ Config.standard with fromDir := "snapshot" } : Config).RunsByPrefix (Fetch.fromMemory [] false) false :=
  have hvalid : ({ Config.standard with fromDir := "snapshot" } : Config).validate = none := by decide +kernel
  ⟨hvalid, fromMemory_ignoresLog [] false,
    generate_splits_by_prefix false hvalid (fromMemory_ignoresLog [] false)⟩

/-- A unit of prefix `b` whose name climbs out of its directory has its
response package written among the directories of prefix `a`. -/
theorem artifact_of_prefix_b_in_directory_of_a :
    Text.joinPath [sideDir "a" responsesSide, "a_responses", "z.go"] ∈
      (((OutputSet.new "b").addUnits
        [{ serviceType := "urn:x:service:x//../../aResponses/z:1", serviceId := "id", controlUrl := "/ctl",
           scpdUrl := "/s.xml", name := "x//../../a_responses/z", device := "box" }]).artifacts
        "example.com/out").map (·.path) := by
  decide +kernel

end UpnpBind
