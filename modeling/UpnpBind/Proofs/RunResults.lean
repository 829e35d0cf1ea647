import UpnpBind.Generate
import UpnpBind.Proofs.ConcurrentWalk

/-!
# What a run gives, whatever its log

A run logs as it goes, and the lines it logs never decide what it gives: with
a fetcher whose answers do not depend on the log, a walk, the reading of a
root's description and the rendering of a set each give the same result from
every log. This module states that result without the log, step by step, and
assembles it for a whole run.

A walk gives what it builds merged into the set it walks into
(`Walker.walk_runFrom_fst`): the units of the visits in visiting order, or the
outcome of the group of tasks, which a group started from another log reaches
too, at the same stage (`Walker.Group.SameStage.run`). A root gives the prefix
it is walked for with what its walk builds (`rootBuilt`), a set gives its
finalized artifacts rendered (`setFiles`), and a run of a valid configuration
gives what its roots build, placed into sets and rendered
(`generate_runFrom_fst`).
-/

namespace UpnpBind

open UpnpBind.Description UpnpBind.Model UpnpBind.Render

/-! ## Logged computations -/

namespace Logged

variable {α β γ : Type}

/-- A computation with a handler runs the handler, from the log the computation
left, only when the computation fails. -/
theorem runFrom_tryCatch (m : Logged α) (handle : Error → Logged α) (log : Array LogLine) :
    (tryCatch m handle).runFrom log =
      match m.runFrom log with
      | (.ok a, log') => (.ok a, log')
      | (.error e, log') => (handle e).runFrom log' := by
  simp only [runFrom, ExceptT.run_tryCatch, StateT.run_bind]
  rcases (ExceptT.run m).run log with ⟨_ | a, log'⟩ <;> rfl

/-- A fold whose every step gives, from any log, a result that does not depend on
the accumulator, handed to a function of the accumulator, gives the fold of those
results by that function. -/
theorem foldlM_runFrom_fst {f : γ → α → Logged γ} {g : α → Except Error β} {h : γ → β → γ}
    (hf : ∀ s x log, ((f s x).runFrom log).1 = (g x).map (h s)) (xs : List α) (s : γ) (log : Array LogLine) :
    ((xs.foldlM f s).runFrom log).1 = (xs.mapM g).map (·.foldl h s) := by
  induction xs generalizing s log with
  | nil => rfl
  | cons x xs ih =>
    rw [List.foldlM_cons, runFrom_bind, List.mapM_cons]
    have hx := hf s x log
    rcases hrun : (f s x).runFrom log with ⟨r, log'⟩
    rw [hrun] at hx
    cases hg : g x with
    | error e =>
      rw [hg] at hx
      cases hx
      rfl
    | ok y =>
      rw [hg] at hx
      cases hx
      change ((List.foldlM f (h s y) xs).runFrom log').1 = _
      rw [ih]
      cases xs.mapM g <;> rfl

/-- Steps that only log leave a loop over a list with nothing to report. -/
theorem forM_runFrom_fst {f : α → Logged Unit} (hf : ∀ x log, ((f x).runFrom log).1 = .ok ())
    (xs : List α) (log : Array LogLine) : ((xs.forM f).runFrom log).1 = .ok () := by
  induction xs generalizing log with
  | nil => rfl
  | cons x xs ih =>
    change (((f x >>= fun _ => xs.forM f)).runFrom log).1 = _
    rw [runFrom_bind]
    have hx := hf x log
    rcases hrun : (f x).runFrom log with ⟨r, log'⟩
    rw [hrun] at hx
    cases hx
    exact ih log'

/-- A first part that succeeds with the same value from every log hands the
rest a log that does not matter, when the rest does not look at it. -/
theorem runFrom_bind_fst_of_ok {m : Logged α} {f : α → Logged β} {a : α} (hm : ∀ log, (m.runFrom log).1 = .ok a)
    (hf : IgnoresLog (f a)) (log : Array LogLine) : ((m >>= f).runFrom log).1 = (f a).result := by
  rw [runFrom_bind_of_ok (hm log)]
  exact hf.runFrom_fst _

theorem ignoresLog_ofExcept (r : Except Error α) : IgnoresLog (ofExcept r) := by
  intro log log'
  rw [runFrom_ofExcept, runFrom_ofExcept]

theorem IgnoresLog.mapM {f : α → Logged β} (hf : ∀ x, IgnoresLog (f x)) (xs : List α) :
    IgnoresLog (xs.mapM f) := by
  intro log log'
  rw [mapM_runFrom_fst f hf, mapM_runFrom_fst f hf]

end Logged

/-! ## Groups from another log -/

namespace Walker.Group

variable {w : Walker} {fetch : Fetch.Fetcher} {limit : Nat} {visits : List Visit}

/-- Two groups at the same stage: the same tasks, the same context and the same
error, whatever their logs. -/
def SameStage (g g' : Group) : Prop := g.tasks = g'.tasks ∧ g.cancelled = g'.cancelled ∧ g.error = g'.error

/-- A move takes groups at the same stage to the same stage: only the fetch and
the build run logged code, and what they give does not depend on the log. -/
theorem SameStage.step (hfetch : ∀ url, Logged.IgnoresLog (fetch url)) {g g' : Group} (h : SameStage g g')
    (m : Move) : SameStage (step w fetch limit visits g m) (step w fetch limit visits g' m) := by
  obtain ⟨tasks, cancelled, error, log⟩ := g
  obtain ⟨tasks', cancelled', error', log'⟩ := g'
  obtain ⟨rfl, rfl, rfl⟩ : tasks = tasks' ∧ cancelled = cancelled' ∧ error = error' := h
  cases m with
  | cancel => exact ⟨rfl, rfl, rfl⟩
  | start =>
    simp only [Group.step, Group.active, Group.setTask]
    split
    · by_cases hc : tasks.countP Task.isActive < limit <;> simp only [hc, ↓reduceIte] <;> exact ⟨rfl, rfl, rfl⟩
    · exact ⟨rfl, rfl, rfl⟩
  | check i =>
    simp only [Group.step, Group.isCancelled, Group.setTask]
    split
    · by_cases hc : (cancelled || error.isSome) = true <;> simp only [hc, ↓reduceIte] <;> exact ⟨rfl, rfl, rfl⟩
    · exact ⟨rfl, rfl, rfl⟩
  | fetch i ifCancelled =>
    simp only [Group.step, Group.isCancelled, Group.setTask, runLogged_eq]
    split
    · rename_i v _ _
      refine ⟨?_, rfl, rfl⟩
      -- the fetcher of a cancelled group answers without a look at the log
      have hfetcher : ∀ url, Logged.IgnoresLog
          ((if (cancelled || error.isSome) = true then fun _ => Logged.ofExcept ifCancelled else fetch) url) := by
        intro url
        split
        · exact Logged.ignoresLog_ofExcept ifCancelled
        · exact hfetch url
      exact congrArg (fun r => tasks.set i (.fetched r)) (fetchDescription_ignoresLog w _ hfetcher v log log')
    · exact ⟨rfl, rfl, rfl⟩
  | build i =>
    simp only [Group.step, Group.setTask, runLogged_eq]
    split
    · rename_i r v _ _
      refine ⟨?_, rfl, rfl⟩
      exact congrArg (fun r => tasks.set i (.returned r))
        (((Logged.ignoresLog_ofExcept r).bind (w.buildVisit_ignoresLog v)) log log')
    · exact ⟨rfl, rfl, rfl⟩
  | finish i =>
    simp only [Group.step, Group.setTask]
    split <;> exact ⟨rfl, rfl, rfl⟩

/-- Runs of the same moves keep groups at the same stage. -/
theorem SameStage.run (hfetch : ∀ url, Logged.IgnoresLog (fetch url)) {g g' : Group} (h : SameStage g g')
    (moves : List Move) :
    SameStage (run w fetch limit visits g moves) (run w fetch limit visits g' moves) := by
  induction moves generalizing g g' with
  | nil => exact h
  | cons m ms ih => exact ih (h.step hfetch m)

/-- What a done group gives before its slots are merged: its error, or the
units in its slots in visiting order. -/
def built (g : Group) : Except Error (List (ServiceUnit × NameSet)) :=
  match g.error with
  | some e => .error e
  | none => .ok (g.tasks.filterMap Task.slot)

theorem outcome_eq (g : Group) (out : OutputSet) : g.outcome out = (·.foldl merge out) <$> g.built := by
  unfold outcome built
  cases g.error <;> rfl

theorem SameStage.built_eq {g g' : Group} (h : SameStage g g') : g.built = g'.built := by
  unfold built
  rw [h.1, h.2.2]

end Walker.Group

/-! ## Walks -/

namespace Walker

variable (w : Walker) {fetch : Fetch.Fetcher}

/-- What a walk builds before it merges anything into a set: the units of the
visits one after another, or what the group of tasks run in visiting order
gives, started from the empty log. -/
def builtUnits (fetch : Fetch.Fetcher) (ctx : Context) (root : Device) :
    Except Error (List (ServiceUnit × NameSet)) :=
  if w.parallelism < 2 then (w.visitAll fetch ctx root).result
  else (Group.run w fetch w.parallelism.toNat root.visits (Group.init root.visits.length #[])
    (Group.inOrder ctx root.visits.length)).built

/-- A visit does not look at the log: under a cancelled context it fails at
once, and on a live one it fetches and builds. -/
theorem visit_ignoresLog (hfetch : ∀ url, Logged.IgnoresLog (fetch url)) (cancelled : Bool) (v : Visit) :
    Logged.IgnoresLog (w.visit fetch cancelled v) := by
  cases cancelled with
  | false => exact w.visit_live_ignoresLog fetch hfetch v
  | true => exact Logged.ignoresLog_throw _

theorem visitAt_ignoresLog (hfetch : ∀ url, Logged.IgnoresLog (fetch url)) (ctx : Context) (v : Visit × Nat) :
    Logged.IgnoresLog (w.visitAt fetch ctx v) :=
  w.visit_ignoresLog hfetch (ctx.cancelledAt v.2) v.1

/-- What a walk gives, from any log, is what it builds merged into the set:
neither the log nor the set it walks into changes what it builds. -/
theorem walk_runFrom_fst (hfetch : ∀ url, Logged.IgnoresLog (fetch url)) (ctx : Context) (root : Device)
    (out : OutputSet) (log : Array LogLine) :
    ((w.walk fetch ctx root out).runFrom log).1 = (·.foldl merge out) <$> w.builtUnits fetch ctx root := by
  by_cases hw : w.parallelism < 2
  · -- one service after another, each under the context as it finds it
    have hvisits := (Logged.IgnoresLog.mapM (w.visitAt_ignoresLog hfetch ctx) root.visits.zipIdx).runFrom_fst log
    rw [w.walk_eq_walkInOrder fetch hw, walkInOrder_runFrom, builtUnits, if_pos hw, visitAll]
    rcases hrun : (root.visits.zipIdx.mapM (w.visitAt fetch ctx)).runFrom log with ⟨_ | built, log'⟩ <;>
      rw [hrun] at hvisits <;> rw [← hvisits] <;> rfl
  · -- concurrently: the group from this log is at the stage the group from the empty log is
    have hstage : Group.SameStage
        (Group.run w fetch w.parallelism.toNat root.visits (Group.init root.visits.length log)
          (Group.inOrder ctx root.visits.length))
        (Group.run w fetch w.parallelism.toNat root.visits (Group.init root.visits.length #[])
          (Group.inOrder ctx root.visits.length)) := by
      have hinit : Group.SameStage (Group.init root.visits.length log) (Group.init root.visits.length #[]) :=
        ⟨rfl, rfl, rfl⟩
      exact hinit.run hfetch _
    simp only [walk, hw, if_false, walkGroup, Logged.runFrom_bind, Logged.runFrom_get, Logged.runFrom_set,
      Logged.runFrom_ofExcept]
    rw [builtUnits, if_neg hw, Group.outcome_eq, hstage.built_eq]

end Walker

/-! ## A run without its log -/

section Run

variable {fetch : Fetch.Fetcher}

theorem describe_ignoresLog (hfetch : ∀ url, Logged.IgnoresLog (fetch url)) (url : String) :
    Logged.IgnoresLog (describe fetch url) := by
  refine (hfetch url).bind fun text => ?_
  split
  · exact (Logged.ignoresLog_log _).bind fun _ => Logged.ignoresLog_pure _
  · exact Logged.ignoresLog_throw _

/-- What walking a root builds, with the root's prefix: its description read,
then its tree walked, a failed walk reported with the root's description. -/
def rootBuilt (c : Config) (fetch : Fetch.Fetcher) (cancelled : Bool) (r : Root) :
    Except Error (String × List (ServiceUnit × NameSet)) := do
  let root ← (describe fetch (c.descriptionUrl r)).result
  match c.walker.builtUnits fetch (.ofCancelled cancelled) root.device with
  | .ok built => pure (r.prefix_, built)
  | .error e => throw (.context ("walking " ++ r.description) e)

/-- Places what a root built into the sets: merged into the set of its prefix,
or into a new set after the others. -/
def placeBuilt (sets : List OutputSet) (b : String × List (ServiceUnit × NameSet)) : List OutputSet :=
  placeSet sets (b.2.foldl Walker.merge ((sets.find? (·.prefix_ == b.1)).getD (OutputSet.new b.1)))

theorem walkRoot_runFrom_fst (hfetch : ∀ url, Logged.IgnoresLog (fetch url)) (c : Config) (cancelled : Bool)
    (sets : List OutputSet) (r : Root) (log : Array LogLine) :
    ((walkRoot c fetch cancelled sets r).runFrom log).1 = (placeBuilt sets) <$> rootBuilt c fetch cancelled r := by
  have hd := (describe_ignoresLog hfetch (c.descriptionUrl r)).runFrom_fst log
  rw [walkRoot, Logged.runFrom_bind, rootBuilt]
  rcases hrun : (describe fetch (c.descriptionUrl r)).runFrom log with ⟨_ | d, log'⟩ <;> rw [hrun] at hd <;>
    rw [← hd]
  · rfl
  · have hwalk := c.walker.walk_runFrom_fst hfetch (.ofCancelled cancelled) d.device
      ((sets.find? (·.prefix_ == r.prefix_)).getD (OutputSet.new r.prefix_)) log'
    simp only [Logged.runFrom_bind, Logged.runFrom_tryCatch]
    rcases hw : (c.walker.walk fetch (.ofCancelled cancelled) d.device
        ((sets.find? (·.prefix_ == r.prefix_)).getD (OutputSet.new r.prefix_))).runFrom log' with ⟨_ | o, log''⟩ <;>
      rw [hw] at hwalk <;> cases hb : c.walker.builtUnits fetch (.ofCancelled cancelled) d.device <;> rw [hb] at hwalk <;>
      cases hwalk <;> simp only [hw, hb, bind, Except.bind] <;> rfl

/-- The files of a set: its finalized artifacts, rendered. -/
def setFiles (importPath : String) (o : OutputSet) : Except Error (List OutputFile) :=
  (renderLogged (o.finalize.artifacts importPath)).result

theorem renderLogged_ignoresLog (arts : List Artifact) : Logged.IgnoresLog (renderLogged arts) := by
  refine Logged.IgnoresLog.mapM (fun a => ?_) arts
  split
  · exact (Logged.ignoresLog_log _).bind fun _ => Logged.ignoresLog_pure _
  · exact Logged.ignoresLog_throw _

/-- Rendering a set gives its files whatever the log: the warnings about the
units it drops are only logged. -/
theorem renderSet_runFrom_fst (importPath : String) (o : OutputSet) (log : Array LogLine) :
    ((renderSet importPath o).runFrom log).1 = setFiles importPath o := by
  rw [renderSet, Logged.runFrom_bind_fst_of_ok (fun log => Logged.forM_runFrom_fst (fun _ _ => rfl) _ log)
    ((Logged.ignoresLog_log _).bind fun _ => renderLogged_ignoresLog _), Logged.result_eq]
  simp only [Logged.verbose, Logged.runFrom_bind, Logged.runFrom_log]
  exact (renderLogged_ignoresLog _).runFrom_fst _

theorem renderSet_ignoresLog (importPath : String) (o : OutputSet) : Logged.IgnoresLog (renderSet importPath o) := by
  intro log log'
  rw [renderSet_runFrom_fst, renderSet_runFrom_fst]

/-- What a run of a valid configuration gives, its logging left out: what each
root builds, placed into the sets of their prefixes, and the files of the sets
one after another. -/
def Config.runFiles (c : Config) (fetch : Fetch.Fetcher) (cancelled : Bool) : Except Error (List OutputFile) := do
  let builds ← c.roots.mapM (rootBuilt c fetch cancelled)
  let files ← (builds.foldl placeBuilt []).mapM (setFiles c.importPath)
  pure files.flatten

/-- A run of a valid configuration gives, from any log, what its roots build
placed into sets and rendered, when what the fetcher gives does not depend on
the log. -/
theorem generate_runFrom_fst {c : Config} (hvalid : c.validate = none) (hfetch : ∀ url, Logged.IgnoresLog (fetch url))
    (cancelled : Bool) (log : Array LogLine) : ((generate c fetch cancelled).runFrom log).1 = c.runFiles fetch cancelled := by
  have hsets := Logged.foldlM_runFrom_fst (walkRoot_runFrom_fst hfetch c cancelled) c.roots [] log
  rw [generate, hvalid]
  simp only [Logged.runFrom_bind]
  unfold Config.runFiles
  rcases hrun : (c.roots.foldlM (walkRoot c fetch cancelled) []).runFrom log with ⟨_ | sets, log'⟩ <;>
    rw [hrun] at hsets <;> cases hb : c.roots.mapM (rootBuilt c fetch cancelled) <;> rw [hb] at hsets <;>
    cases hsets
  · rfl
  · -- every set rendered, whatever the log
    rename_i builds
    have hfiles := Logged.mapM_runFrom_fst (renderSet c.importPath) (renderSet_ignoresLog c.importPath)
      (builds.foldl placeBuilt []) log'
    have hrender : (fun o => (renderSet c.importPath o).result) = setFiles c.importPath :=
      funext fun o => renderSet_runFrom_fst c.importPath o #[]
    rw [hrender] at hfiles
    rcases hr : ((builds.foldl placeBuilt []).mapM (renderSet c.importPath)).runFrom log' with
      ⟨_ | files, log''⟩ <;> rw [hr] at hfiles
    · simp only [hr, ← hfiles, bind, Except.bind]
    · simp only [hr, ← hfiles, bind, Except.bind, Logged.runFrom_pure]
      rfl

end Run

end UpnpBind
