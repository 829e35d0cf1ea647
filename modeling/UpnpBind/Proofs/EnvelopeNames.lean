import UpnpBind.Proofs.ConcurrentWalk
import UpnpBind.Proofs.FinalizedSets

/-!
# Envelope names are the action names of the units

A set is walked into by any number of walks, each over any tree, with any
fetcher, builder and parallelism; a walk that fails leaves the set as it was
(`Walker.Walked`). In every set reached from an empty one, the envelope names
are exactly the names of the actions of the set's units, each once
(`Model.OutputSet.NamesMatch`).

Every unit a walk adds comes with the names it was built with, which are its
action names (`Walker.NamesBuilt`): for a walk one service after another this
is what each visit gives, and for a concurrent walk it is an invariant of the
group, kept by every move (`Walker.Group.HoldsBuilt.step`). Merging such units
adds their units and their names together, so the names keep matching.

Once the set is finalized, every action of every unit kept, and so of every
unit artifact, is among the aliases of the shared envelope; and every alias is
the name of an action of one of the walked units, which finalizing may have
dropped.

Main statement: `Walker.walked_envelope_covers_actions`.
-/

namespace UpnpBind

open UpnpBind.Description UpnpBind.Model

namespace Walker

/-- A unit with the names it was built with: its action names, each once. -/
def NamesBuilt (b : ServiceUnit × NameSet) : Prop := b.2 = NameSet.empty.add (b.1.actions.map (·.name))

variable {w : Walker} {fetch : Fetch.Fetcher}

/-- A visited service builds with its action names. -/
theorem namesBuilt_of_buildResult {v : Visit} {text : String} {b : ServiceUnit × NameSet}
    (h : w.buildResult v text = .ok b) : NamesBuilt b := by
  obtain ⟨u, names⟩ := b
  obtain ⟨doc, built, -, hu, rfl⟩ := (w.buildResult_eq_ok_iff v text u names).mp h
  rw [NamesBuilt, Builder.unit_names hu]

/-- Building from a fetch's result, when it gives a unit, gives it with its action names. -/
theorem namesBuilt_of_build_fetched {v : Visit} {r : Except Error String} {σ : Array LogLine}
    {b : ServiceUnit × NameSet} (h : ((Logged.ofExcept r >>= w.buildVisit v).runFrom σ).1 = .ok b) :
    NamesBuilt b := by
  cases r with
  | error e => simp [Logged.runFrom_bind] at h
  | ok text =>
    rw [Logged.runFrom_bind, Logged.runFrom_ofExcept, buildVisit_runFrom_fst] at h
    exact namesBuilt_of_buildResult h

/-! ## The units a concurrent walk holds -/

/-- Every unit the task holds comes with its action names. -/
def Task.HoldsBuilt : Task → Prop
  | .returned (.ok b) | .finished (.ok b) => NamesBuilt b
  | _ => True

namespace Group

variable {visits : List Visit} {limit : Nat}

/-- Every task of the group holds units with their action names. -/
def HoldsBuilt (g : Group) : Prop := ∀ t ∈ g.tasks, t.HoldsBuilt

theorem holdsBuilt_init (n : Nat) (σ : Array LogLine) : (init n σ).HoldsBuilt := by
  intro t ht
  rw [init, List.mem_replicate] at ht
  rw [ht.2]
  trivial

namespace HoldsBuilt

variable {g : Group}

theorem withLog (h : g.HoldsBuilt) (log : Array LogLine) : HoldsBuilt { g with log } := h

theorem setTask (h : g.HoldsBuilt) {i : Nat} {t : Task} (ht : t.HoldsBuilt) : (g.setTask i t).HoldsBuilt := by
  intro t' ht'
  rcases List.mem_or_eq_of_mem_set ht' with ht' | rfl
  · exact h t' ht'
  · exact ht

/-- Every move keeps the units the tasks hold paired with their action names:
only a build gives a task a unit, and a finish keeps it. -/
theorem step (h : g.HoldsBuilt) (m : Move) : (Group.step w fetch limit visits g m).HoldsBuilt := by
  cases m with
  | cancel => exact h
  | start =>
    simp only [Group.step]
    split
    · split
      · exact h.setTask trivial
      · exact h
    · exact h
  | check i =>
    simp only [Group.step]
    split
    · split
      · exact h.setTask trivial
      · exact h.setTask trivial
    · exact h
  | fetch i ifCancelled =>
    simp only [Group.step]
    split
    · rw [runLogged_eq]
      exact (h.withLog _).setTask trivial
    · exact h
  | build i =>
    simp only [Group.step]
    split
    · rename_i r v _ _
      rw [runLogged_eq]
      refine (h.withLog _).setTask ?_
      -- the task returns what building from the fetched text gives
      rcases hres : ((Logged.ofExcept r >>= w.buildVisit v).runFrom g.log).1 with e | b
      · trivial
      · exact namesBuilt_of_build_fetched hres
    · exact h
  | finish i =>
    simp only [Group.step]
    split
    · rename_i r htask
      have hret : (Task.returned r).HoldsBuilt := h _ (List.mem_of_getElem? htask)
      refine (h.setTask (t := .finished r) ?_ : HoldsBuilt _)
      cases r with
      | error e => trivial
      | ok b => exact hret
    · exact h

/-- Every run keeps the units the tasks hold paired with their action names. -/
theorem run (h : g.HoldsBuilt) (moves : List Move) :
    (Group.run w fetch limit visits g moves).HoldsBuilt := by
  induction moves generalizing g with
  | nil => exact h
  | cons m ms ih => exact ih (h.step m)

/-- The units in the slots come with their action names. -/
theorem slots (h : g.HoldsBuilt) : ∀ b ∈ g.tasks.filterMap Task.slot, NamesBuilt b := by
  intro b hb
  obtain ⟨t, ht, hslot⟩ := List.mem_filterMap.mp hb
  match t, hslot with
  | .finished (.ok b'), rfl => exact h _ ht

end HoldsBuilt

end Group

/-! ## What a walk adds -/

/-- A concurrent walk succeeds with what the group it runs gives once done. -/
theorem walkGroup_runFrom_ok {ctx : Context} {root : Device} {out o : OutputSet} {σ σ' : Array LogLine}
    (h : (w.walkGroup fetch ctx root out).runFrom σ = (.ok o, σ')) :
    (Group.run w fetch w.parallelism.toNat root.visits (Group.init root.visits.length σ)
      (Group.inOrder ctx root.visits.length)).outcome out = .ok o := by
  simp only [walkGroup, Logged.runFrom_bind, Logged.runFrom_get, Logged.runFrom_set,
    Logged.runFrom_ofExcept] at h
  exact (Prod.mk.inj h).1

/-- A walk that succeeds merges units into the set, each with its action names. -/
theorem exists_built_of_walk_ok {ctx : Context} {root : Device} {out o : OutputSet} {σ σ' : Array LogLine}
    (h : (w.walk fetch ctx root out).runFrom σ = (.ok o, σ')) :
    ∃ built : List (ServiceUnit × NameSet), (∀ b ∈ built, NamesBuilt b) ∧ o = built.foldl merge out := by
  by_cases hw : w.parallelism < 2
  · -- one service after another: every visit got through
    rw [w.walk_eq_walkInOrder fetch hw, walkInOrder_runFrom_ok_iff] at h
    obtain ⟨built, hm, rfl⟩ := h
    have hall := (w.runs_visit_iff fetch _ _ _ _ _ _).mp ((Logged.mapM_runFrom_ok_iff _ _ _ _ _).mp hm)
    exact ⟨built, hall.names_eq w fetch, rfl⟩
  · -- concurrently: the group finished without an error and its slots are merged
    simp only [walk, hw, if_false] at h
    have houtcome := walkGroup_runFrom_ok h
    have hheld : (Group.run w fetch w.parallelism.toNat root.visits (Group.init root.visits.length σ)
        (Group.inOrder ctx root.visits.length)).HoldsBuilt :=
      (Group.holdsBuilt_init root.visits.length σ).run _
    unfold Group.outcome at houtcome
    split at houtcome
    · cases houtcome
    · exact ⟨_, hheld.slots, (Except.ok.inj houtcome).symm⟩

end Walker

/-! ## Sets whose names match their units -/

namespace Model.OutputSet

/-- The envelope names of a set are exactly the action names of its units. -/
def NamesMatch (o : OutputSet) : Prop :=
  ∀ x, x ∈ o.envelopeNames.names ↔ ∃ u ∈ o.units, ∃ a ∈ u.actions, a.name = x

theorem namesMatch_new (p : String) : (new p).NamesMatch := by
  simp [NamesMatch, new, NameSet.empty]

/-- Merging units built with their action names keeps the names matching. -/
theorem NamesMatch.foldl_merge {out : OutputSet} (h : out.NamesMatch) {built : List (ServiceUnit × NameSet)}
    (hbuilt : ∀ b ∈ built, Walker.NamesBuilt b) : (built.foldl Walker.merge out).NamesMatch := by
  intro x
  rw [Walker.foldl_merge, Walker.add_built_names _ _ hbuilt]
  simp only [NameSet.mem_names_add, h x, List.mem_append, List.mem_flatMap, List.mem_map, Prod.exists]
  constructor
  · rintro (⟨u, hu, a, ha, rfl⟩ | ⟨u, names, hb, a, ha, rfl⟩)
    · exact ⟨u, .inl hu, a, ha, rfl⟩
    · exact ⟨u, .inr ⟨u, names, hb, rfl⟩, a, ha, rfl⟩
  · rintro ⟨u, hu | ⟨u', names, hb, rfl⟩, a, ha, rfl⟩
    · exact .inl ⟨u, hu, a, ha, rfl⟩
    · exact .inr ⟨u', names, hb, a, ha, rfl⟩

/-- What the envelope names of a set say about it: they are its units' action
names, each once; and once the set is finalized, every action of every unit
kept, and so of every unit artifact, is among the aliases of the shared
envelope, and every alias is an action name of one of the set's units, kept or
not. -/
structure EnvelopeCoversActions (o : OutputSet) : Prop where
  nodup : o.envelopeNames.names.Nodup
  mem_iff : ∀ x, x ∈ o.envelopeNames.names ↔ ∃ u ∈ o.units, ∃ a ∈ u.actions, a.name = x
  kept_mem_aliases : ∀ k ∈ o.finalize.units, ∀ a ∈ k.actions, a.name ∈ o.finalize.aliases
  alias_walked : ∀ x ∈ o.finalize.aliases, ∃ u ∈ o.units, ∃ a ∈ u.actions, a.name = x
  envelope_covers_artifacts : ∀ importPath, ∀ art ∈ o.artifacts importPath, ∀ pkg q u shared,
    art.data = .unit pkg q u shared → ∀ a ∈ u.actions, ∃ env ∈ o.artifacts importPath,
      env.kind = .sharedEnvelope ∧ ∃ pkg' q' aliases, env.data = .shared pkg' q' aliases ∧ a.name ∈ aliases

end Model.OutputSet

namespace Walker

/-- The sets reached from the empty set of prefix `p` by walks, each over any
tree, with any walker, fetcher and context, from any log: a walk that succeeds
gives the next set, and one that fails leaves the set as it was. -/
inductive Walked (p : String) : OutputSet → Prop
  | new : Walked p (OutputSet.new p)
  | walk {o o' : OutputSet} (w : Walker) (fetch : Fetch.Fetcher) (ctx : Context) (root : Device)
      (σ σ' : Array LogLine) :
      Walked p o → (w.walk fetch ctx root o).runFrom σ = (.ok o', σ') → Walked p o'
  | fail {o : OutputSet} (w : Walker) (fetch : Fetch.Fetcher) (ctx : Context) (root : Device)
      (σ σ' : Array LogLine) (e : Error) :
      Walked p o → (w.walk fetch ctx root o).runFrom σ = (.error e, σ') → Walked p o

/-- A walked set is not finalized, and its envelope names match its units. -/
theorem Walked.namesMatch {p : String} {o : OutputSet} (h : Walked p o) : o.finalized = false ∧ o.NamesMatch := by
  induction h with
  | new => exact ⟨rfl, OutputSet.namesMatch_new p⟩
  | walk w fetch ctx root σ σ' _ hwalk ih =>
    obtain ⟨built, hbuilt, rfl⟩ := exists_built_of_walk_ok hwalk
    refine ⟨?_, ih.2.foldl_merge hbuilt⟩
    rw [foldl_merge]
    exact ih.1
  | fail _ _ _ _ _ _ _ _ _ ih => exact ih

/-- In every set walked into from an empty one, by any walks that succeed or
fail, the envelope names are the action names of its units, each once; once
the set is finalized, the shared envelope's aliases hold the name of every
action of every unit kept, and each alias names an action of a walked unit. -/
theorem walked_envelope_covers_actions {p : String} {o : OutputSet} (h : Walked p o) : o.EnvelopeCoversActions := by
  obtain ⟨hfin, hmatch⟩ := h.namesMatch
  -- the aliases are the envelope names, sorted
  have haliases : ∀ x, x ∈ o.finalize.aliases ↔ x ∈ o.envelopeNames.names := by
    intro x
    rw [OutputSet.finalize_eq hfin]
    exact mem_sortNames
  have hkept : ∀ k ∈ o.finalize.units, ∀ a ∈ k.actions, a.name ∈ o.finalize.aliases := by
    intro k hk a ha
    rw [OutputSet.finalize_eq hfin] at hk
    obtain ⟨u, hu, rfl⟩ := exists_of_mem_keepUnits_fst _ hk
    exact (haliases _).mpr ((hmatch _).mpr ⟨u, hu, a, ha, rfl⟩)
  refine ⟨o.envelopeNames.nodup, hmatch, hkept, fun x hx => (hmatch x).mp ((haliases x).mp hx), ?_⟩
  intro importPath art hart pkg q u shared hdata a ha
  obtain ⟨env, henv, hkind, hdata'⟩ := OutputSet.exists_sharedEnvelope_mem_artifacts o importPath
  exact ⟨env, henv, hkind, _, _, _, hdata',
    hkept u (OutputSet.mem_finalize_units_of_mem_artifacts importPath hart hdata) a ha⟩

/-- A device offering the service with one action. -/
def infoBox : Device := { friendlyName := "box", services := [infoService] }

/-- The set of prefix `tr064` after a walk over that device, one service after another. -/
def infoWalked : OutputSet :=
  ((({} : Walker).walk infoOnly .live infoBox (OutputSet.new "tr064")).result).toOption.getD (OutputSet.new "tr064")

theorem infoBox_visits : infoBox.visits = [⟨infoBox, infoService⟩] := by
  rw [Device.visits]
  rfl

/-- A walk that builds the unit of a service, then a walk that fails at a
service whose description cannot be fetched and so leaves the set as it was:
the set holds the one unit, its envelope names are the unit's action name, and
they cover the actions once the set is finalized. -/
theorem envelope_covers_actions_after_walks :
    Walked "tr064" infoWalked ∧ infoWalked.units.length = 1 ∧ infoWalked.envelopeNames.names = ["GetInfo"] ∧
      infoWalked.EnvelopeCoversActions := by
  have hfields : infoWalked.units.length = 1 ∧ infoWalked.envelopeNames.names = ["GetInfo"] := by
    unfold infoWalked
    rw [walk_eq_walkInOrder _ _ (by decide)]
    unfold walkInOrder visitAll
    rw [infoBox_visits]
    decide +kernel
  -- the first walk succeeds with the set named
  have hsome : ((({} : Walker).walk infoOnly .live infoBox (OutputSet.new "tr064")).runFrom #[]).1.toOption.isSome =
      true := by
    rw [walk_eq_walkInOrder _ _ (by decide)]
    unfold walkInOrder visitAll
    rw [infoBox_visits]
    decide +kernel
  obtain ⟨o, ho⟩ := Option.isSome_iff_exists.mp hsome
  have hrun : (({} : Walker).walk infoOnly .live infoBox (OutputSet.new "tr064")).runFrom #[] =
      (.ok infoWalked, ((({} : Walker).walk infoOnly .live infoBox (OutputSet.new "tr064")).runFrom #[]).2) := by
    have hwalked : infoWalked = o := by
      rw [infoWalked, Logged.result_eq, ho]
      rfl
    rw [hwalked, ← eq_ok_of_toOption_eq_some ho]
  -- the second walk fails at the service with no description
  have hnone : ((({} : Walker).walk infoOnly .live hostsAndInfo infoWalked).runFrom #[]).1.toOption.isSome =
      false := by
    rw [walk_eq_walkInOrder _ _ (by decide)]
    unfold walkInOrder visitAll
    rw [hostsAndInfo_visits]
    decide +kernel
  obtain ⟨e, he⟩ : ∃ e, ((({} : Walker).walk infoOnly .live hostsAndInfo infoWalked).runFrom #[]).1 = .error e := by
    cases hr : ((({} : Walker).walk infoOnly .live hostsAndInfo infoWalked).runFrom #[]).1 with
    | ok o' => simp [hr, Except.toOption] at hnone
    | error e => exact ⟨e, rfl⟩
  have hwalked : Walked "tr064" infoWalked :=
    .fail {} infoOnly .live hostsAndInfo #[] _ e (.walk {} infoOnly .live infoBox #[] _ .new hrun) (Prod.ext he rfl)
  exact ⟨hwalked, hfields.1, hfields.2, walked_envelope_covers_actions hwalked⟩

end Walker

end UpnpBind
