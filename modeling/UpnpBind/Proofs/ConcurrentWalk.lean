import UpnpBind.Proofs.WalkInOrder

/-!
# Concurrent walks agree with walks in order

From a parallelism of 2 on, a walk visits each service in a task of a group,
and the scheduler may start, interleave and finish the tasks in any order the
limit allows. A run of the group is any list of moves (`Walker.Group.run`);
once every task has finished, the group fails with its first error or merges
the slots in visiting order (`Walker.Group.outcome`).

Main statement (`group_outcome_agrees_with_walk_in_order`): on a live context,
with a fetcher whose result depends on the URL only, every run of the group
that finishes all of its tasks agrees with the walk in order. The group
succeeds exactly when the walk in order does, with the same set (the same units
in the same order and the same envelope names in the same order), and when
exactly one service fails, both fail with that service's error.

The argument is an invariant of the group, `Group.Agrees`: there is one task per
service, and while the group has no error every task holds what its service's
visit gives on a live context, at whatever stage it is; a finished task holds
a unit. Once the group has an error, it is the live error of some service's
visit: a task that sees the cancelled context only fails after the group
already has one. Every move keeps the invariant (`Group.Agrees.step`), so
every run does (`Group.Agrees.run`). A finished group with no error then holds
the live unit of every service, in visiting order (`Group.Agrees.mapM_eq`), which
is what the walk in order merges.

When two services fail, the group's error is whichever task finished first,
and the walk in order fails with the first in visiting order: only that they
both fail is claimed then.
-/

namespace UpnpBind

open UpnpBind.Description UpnpBind.Model

namespace Walker

variable (w : Walker) (fetch : Fetch.Fetcher)

/-! ## Visits on a live context -/

theorem fetchDescription_ignoresLog (hfetch : ∀ url, Logged.IgnoresLog (fetch url)) (v : Visit) :
    Logged.IgnoresLog (w.fetchDescription fetch v) :=
  (Logged.ignoresLog_log _).bind fun _ => hfetch _

/-- On a live context a visit fetches, then builds. -/
theorem visit_live (v : Visit) : w.visit fetch false v = w.fetchDescription fetch v >>= w.buildVisit v := rfl

/-- What a visit gives on a live context does not depend on the log, as long
as what the fetcher gives does not. -/
theorem visit_live_ignoresLog (hfetch : ∀ url, Logged.IgnoresLog (fetch url)) (v : Visit) :
    Logged.IgnoresLog (w.visit fetch false v) := by
  rw [visit_live]
  exact (w.fetchDescription_ignoresLog fetch hfetch v).bind (w.buildVisit_ignoresLog v)

/-- Under a live context every visit is the live one, wherever it stands. -/
theorem mapM_visitAt_live (vs : List Visit) (i : Nat) :
    (vs.zipIdx i).mapM (w.visitAt fetch .live) = vs.mapM (w.visit fetch false) := by
  induction vs generalizing i with
  | nil => rfl
  | cons v vs ih =>
    rw [List.zipIdx_cons, List.mapM_cons, List.mapM_cons, ih]
    rfl

/-- The walk in order on a live context gives the live result of every visit,
merged into the set, or the first failure among them. -/
theorem walk_result_of_lt_two (hw : w.parallelism < 2) (hfetch : ∀ url, Logged.IgnoresLog (fetch url))
    (root : Device) (out : OutputSet) :
    (w.walk fetch .live root out).result =
      (·.foldl merge out) <$> root.visits.mapM fun v => (w.visit fetch false v).result := by
  rw [Logged.result_eq, w.walk_eq_walkInOrder fetch hw, walkInOrder_runFrom, mapM_visitAt_live]
  have h := Logged.mapM_runFrom_fst (w.visit fetch false) (w.visit_live_ignoresLog fetch hfetch) root.visits #[]
  rcases hm : (root.visits.mapM (w.visit fetch false)).runFrom #[] with ⟨_ | built, σ'⟩ <;>
    rw [hm] at h <;> simp only at h ⊢ <;> rw [← h] <;> rfl

/-! ## The invariant of the group -/

namespace Group

variable {w : Walker} {fetch : Fetch.Fetcher} {visits : List Visit}

theorem runLogged_eq {α : Type} (g : Group) (m : Logged α) :
    g.runLogged m = ((m.runFrom g.log).1, { g with log := (m.runFrom g.log).2 }) := rfl

/-- What a task visiting `v` may hold, in a group that has an error (`failed`)
or not. Without one, a fetched task holds what fetching the description
gives, and a returned or finished task what the visit gives on a live
context, a finished one only a unit. Once the group has an error, anything. -/
def TaskAgrees (w : Walker) (fetch : Fetch.Fetcher) (v : Visit) (failed : Bool) : Task → Prop
  | .fetched r => failed = true ∨ r = (w.fetchDescription fetch v).result
  | .returned r => failed = true ∨ r = (w.visit fetch false v).result
  | .finished r => failed = true ∨ ∃ b, r = .ok b ∧ (w.visit fetch false v).result = .ok b
  | _ => True

theorem taskAgrees_of_failed (v : Visit) (t : Task) : TaskAgrees w fetch v true t := by
  cases t <;> simp [TaskAgrees]

/-- The invariant of a group walking `visits` on a live context. -/
structure Agrees (w : Walker) (fetch : Fetch.Fetcher) (visits : List Visit) (g : Group) : Prop where
  /-- The context is not cancelled from outside. -/
  live : g.cancelled = false
  /-- One task per service. -/
  length_eq : g.tasks.length = visits.length
  /-- Each task agrees with its service's visit. -/
  task : ∀ (i : Nat) v t, visits[i]? = some v → g.tasks[i]? = some t → TaskAgrees w fetch v g.error.isSome t
  /-- The group's error is what some service's visit fails with on a live context. -/
  error : ∀ e, g.error = some e → ∃ v ∈ visits, (w.visit fetch false v).result = .error e

theorem agrees_init (σ : Array LogLine) : Agrees w fetch visits (init visits.length σ) where
  live := rfl
  length_eq := by simp [init]
  task i v t _ ht := by
    simp only [init, List.getElem?_replicate] at ht
    split at ht
    · cases ht
      trivial
    · cases ht
  error e he := by cases he

/-- A group with an error agrees with its services once it has one task for
each and its error is a live one. -/
theorem agrees_of_failed {g : Group} (hlive : g.cancelled = false) (hlen : g.tasks.length = visits.length)
    (hfailed : g.error.isSome = true)
    (herr : ∀ e, g.error = some e → ∃ v ∈ visits, (w.visit fetch false v).result = .error e) :
    Agrees w fetch visits g where
  live := hlive
  length_eq := hlen
  task _ v t _ _ := hfailed ▸ taskAgrees_of_failed v t
  error := herr

/-- Services whose tasks all finished with their live units give those units,
in order. -/
theorem mapM_eq_filterMap_slot (L : Visit → Except Error (ServiceUnit × NameSet)) (visits : List Visit)
    (tasks : List Task) (hlen : tasks.length = visits.length)
    (hunit : ∀ (i : Nat) v t, visits[i]? = some v → tasks[i]? = some t → ∃ b, t = .finished (.ok b) ∧ L v = .ok b) :
    visits.mapM L = .ok (tasks.filterMap Task.slot) := by
  induction visits generalizing tasks with
  | nil =>
    rw [List.length_eq_zero_iff.mp (hlen.trans List.length_nil)]
    rfl
  | cons v vs ih =>
    obtain ⟨t, ts, rfl⟩ := List.exists_cons_of_length_eq_add_one hlen
    obtain ⟨b, rfl, hb⟩ := hunit 0 v t rfl rfl
    have hrest := ih ts (by simpa using hlen) fun i v' t' hv ht => hunit (i + 1) v' t' hv ht
    simp [List.mapM_cons, hb, hrest, Task.slot, bind, Except.bind, pure, Except.pure]

namespace Agrees

variable {g : Group}

theorem withLog (h : Agrees w fetch visits g) (log : Array LogLine) : Agrees w fetch visits { g with log } :=
  ⟨h.live, h.length_eq, h.task, h.error⟩

/-- Setting a task to one that agrees with its service keeps the invariant. -/
theorem setTask (h : Agrees w fetch visits g) {i : Nat} {t : Task}
    (ht : ∀ v, visits[i]? = some v → TaskAgrees w fetch v g.error.isSome t) :
    Agrees w fetch visits (g.setTask i t) where
  live := h.live
  length_eq := by simp [Group.setTask, h.length_eq]
  task j v t' hv ht' := by
    simp only [Group.setTask, List.getElem?_set] at ht'
    by_cases hij : i = j
    · subst hij
      simp only [if_true] at ht'
      split at ht'
      · cases ht'
        exact ht v hv
      · cases ht'
    · simp only [hij, if_false] at ht'
      exact h.task j v t' hv ht'
  error := h.error

variable (hfetch : ∀ url, Logged.IgnoresLog (fetch url))
include hfetch

/-- Every move but a cancellation from outside keeps the invariant. -/
theorem step (h : Agrees w fetch visits g) (limit : Nat) {m : Move} (hm : m ≠ .cancel) :
    Agrees w fetch visits (Group.step w fetch limit visits g m) := by
  cases m with
  | cancel => exact absurd rfl hm
  | start =>
    simp only [Group.step]
    split
    · split
      · exact h.setTask fun _ _ => trivial
      · exact h
    · exact h
  | check i =>
    simp only [Group.step]
    split
    · split
      · -- on a live context, only the group's own error cancels it
        rename_i hc
        have hfailed : g.error.isSome = true := by simpa [isCancelled, h.live] using hc
        exact h.setTask fun _ _ => Or.inl hfailed
      · exact h.setTask fun _ _ => trivial
    · exact h
  | fetch i ifCancelled =>
    simp only [Group.step]
    split
    · rename_i v _ hv
      rw [runLogged_eq]
      refine (h.withLog _).setTask fun v' hv' => ?_
      obtain rfl : v = v' := Option.some.inj (hv.symm.trans hv')
      by_cases hfailed : g.error.isSome = true
      · exact Or.inl hfailed
      · -- on a live context the task asks the fetcher itself
        have hlive : g.isCancelled = false := by simpa [isCancelled, h.live] using hfailed
        simp only [hlive, Bool.false_eq_true, if_false]
        exact Or.inr ((fetchDescription_ignoresLog w fetch hfetch v).runFrom_fst _)
    · exact h
  | build i =>
    simp only [Group.step]
    split
    · rename_i r v htask hv
      rw [runLogged_eq]
      refine (h.withLog _).setTask fun v' hv' => ?_
      obtain rfl : v = v' := Option.some.inj (hv.symm.trans hv')
      rcases h.task i v _ hv htask with hfailed | rfl
      · exact Or.inl hfailed
      · right
        rw [visit_live]
        exact Logged.runFrom_ofExcept_result_bind (w.buildVisit_ignoresLog v) _
    · exact h
  | finish i =>
    simp only [Group.step]
    split
    · rename_i r htask
      have hi : i < visits.length := h.length_eq ▸ (List.getElem?_eq_some_iff.mp htask).1
      have hv : visits[i]? = some visits[i] := List.getElem?_eq_getElem hi
      have hret := h.task i _ _ hv htask
      cases r with
      | ok b =>
        -- a unit leaves the group's error as it is
        simp only [Option.orElse_eq_orElse, Option.orElse_eq_or, Option.or_none]
        refine h.setTask fun v' hv' => ?_
        obtain rfl : visits[i] = v' := Option.some.inj (hv.symm.trans hv')
        rcases hret with hfailed | hr
        · exact Or.inl hfailed
        · exact Or.inr ⟨b, rfl, hr.symm⟩
      | error e =>
        refine agrees_of_failed h.live (by simp [Group.setTask, h.length_eq]) (by simp) fun e' he' => ?_
        rcases hge : g.error with _ | e₀
        · -- the task's error is the group's first, and it is a live one
          simp only [hge, Option.orElse_eq_orElse, Option.orElse_eq_or, Option.none_or, Option.some.injEq] at he'
          subst he'
          rw [hge] at hret
          have hr : Except.error e = (w.visit fetch false visits[i]).result := hret.resolve_left (by simp)
          exact ⟨visits[i], List.getElem_mem hi, hr.symm⟩
        · simp only [hge, Option.orElse_eq_orElse, Option.orElse_eq_or, Option.some_or] at he'
          exact h.error e' (hge.trans he')
    · exact h

/-- Every run without a cancellation from outside keeps the invariant. -/
theorem run (h : Agrees w fetch visits g) (limit : Nat) {moves : List Move} (hlive : Move.cancel ∉ moves) :
    Agrees w fetch visits (Group.run w fetch limit visits g moves) := by
  induction moves generalizing g with
  | nil => exact h
  | cons m ms ih =>
    rw [List.mem_cons, not_or] at hlive
    exact ih (h.step hfetch limit fun hm => hlive.1 hm.symm) hlive.2

omit hfetch

/-- A finished group without an error holds the live unit of every service, in
visiting order. -/
theorem mapM_eq (h : Agrees w fetch visits g) (hfin : g.finished = true) (hnone : g.error = none) :
    visits.mapM (fun v => (w.visit fetch false v).result) = .ok (g.tasks.filterMap Task.slot) := by
  have hunit : ∀ (i : Nat) v t, visits[i]? = some v → g.tasks[i]? = some t →
      ∃ b, t = .finished (.ok b) ∧ (w.visit fetch false v).result = .ok b := by
    intro i v t hv ht
    have hdone : t.isFinished = true := List.all_eq_true.mp hfin t (List.mem_of_getElem? ht)
    have hagrees := h.task i v t hv ht
    rw [hnone] at hagrees
    cases t with
    | finished r =>
      obtain ⟨b, rfl, hb⟩ := hagrees.resolve_left (by simp)
      exact ⟨b, rfl, hb⟩
    | _ => simp [Task.isFinished] at hdone
  exact mapM_eq_filterMap_slot _ visits g.tasks h.length_eq hunit

/-- A finished group has an error as soon as some service's visit fails on a
live context. -/
theorem error_isSome (h : Agrees w fetch visits g) (hfin : g.finished = true) {v : Visit} (hv : v ∈ visits)
    {e : Error} (hfail : (w.visit fetch false v).result = .error e) : g.error.isSome = true := by
  cases hge : g.error with
  | some e' => rfl
  | none => exact absurd (h.mapM_eq hfin hge) (mapM_ne_ok_of_mem hv hfail _)

end Agrees

end Group

/-! ## Every schedule agrees with the walk in order -/

/-- On a live context, with a fetcher whose result depends on the URL only,
every run of the group that finishes all of its tasks, with no cancellation
from outside, agrees with the walk in order, whatever the schedule of its
moves. The group succeeds exactly when the walk in order does, with the same
set; when exactly one service's visit fails, both fail with its error. -/
theorem group_outcome_agrees_with_walk_in_order (w : Walker) (fetch : Fetch.Fetcher)
    (hfetch : ∀ url, Logged.IgnoresLog (fetch url)) (root : Device) (out : OutputSet) (q : Int) (hq : q < 2)
    (σ : Array LogLine) (moves : List Move) (hlive : Move.cancel ∉ moves)
    (hfin : (Group.run w fetch w.parallelism.toNat root.visits (Group.init root.visits.length σ)
      moves).finished = true) :
    let g := Group.run w fetch w.parallelism.toNat root.visits (Group.init root.visits.length σ) moves
    let inOrder := ({ w with parallelism := q }.walk fetch .live root out).result
    (∀ o, g.outcome out = .ok o ↔ inOrder = .ok o) ∧
    ∀ k e (hk : k < root.visits.length), (w.visit fetch false root.visits[k]).result = .error e →
      (∀ j (hj : j < root.visits.length), j ≠ k → ∃ b, (w.visit fetch false root.visits[j]).result = .ok b) →
      g.outcome out = .error e ∧ inOrder = .error e := by
  intro g inOrder
  have hagrees : g.Agrees w fetch root.visits := (Group.agrees_init σ).run hfetch _ hlive
  -- the walk in order visits with the same base and builder
  have hseq : inOrder = (·.foldl merge out) <$> root.visits.mapM fun v => (w.visit fetch false v).result :=
    walk_result_of_lt_two { w with parallelism := q } fetch hq hfetch root out
  refine ⟨fun o => ?_, fun k e hk hfail honly => ?_⟩
  · rcases hge : g.error with _ | e
    · rw [hseq, hagrees.mapM_eq hfin hge]
      simp [Group.outcome, hge, Functor.map, Except.map]
    · -- the group's error is a live failure of some service, so the walk in order fails too
      obtain ⟨v, hv, hve⟩ := hagrees.error e hge
      constructor
      · intro h
        simp [Group.outcome, hge] at h
      · intro h
        rw [hseq] at h
        cases hm : root.visits.mapM fun v => (w.visit fetch false v).result with
        | ok bs => exact absurd hm (mapM_ne_ok_of_mem hv hve bs)
        | error e' =>
          rw [hm] at h
          cases h
  · -- the group has an error, a live failure of some service: the only one, `k`
    obtain ⟨e', hge⟩ := Option.isSome_iff_exists.mp (hagrees.error_isSome hfin (List.getElem_mem hk) hfail)
    obtain ⟨v, hv, hve⟩ := hagrees.error e' hge
    obtain ⟨j, hj, rfl⟩ := List.mem_iff_getElem.mp hv
    have hjk : j = k := by
      refine Classical.byContradiction fun hne => ?_
      obtain ⟨b, hb⟩ := honly j hj hne
      rw [hb] at hve
      cases hve
    subst hjk
    rw [hfail] at hve
    cases hve
    refine ⟨by simp [Group.outcome, hge], ?_⟩
    rw [hseq, mapM_eq_error_of_only _ j hj hfail honly]
    rfl

/-- A service whose description the fetcher below does not have. -/
def hostsService : Service := { serviceType := "urn:x:service:Hosts:1", scpdUrl := "/hosts.xml" }

/-- A service whose description names one action. -/
def infoService : Service := { serviceType := "urn:x:service:Info:1", scpdUrl := "/info.xml" }

/-- A device offering both. -/
def hostsAndInfo : Device := { friendlyName := "box", services := [hostsService, infoService] }

/-- A fetcher that has the description of the second service only. -/
def infoOnly : Fetch.Fetcher := fun url =>
  if url = "/info.xml" then pure "<scpd><actionList><action><name>GetInfo</name></action></actionList></scpd>"
  else throw (.plain "down")

/-- Both tasks start and check the live context; the first fails and finishes,
which cancels the group, and only then does the second fetch. -/
def firstFailsThenSecondFetches : List Move :=
  [.start, .start, .check 0, .check 1, .fetch 0 (.error canceledError), .build 0, .finish 0,
    .fetch 1 (.error (Fetch.canceled "/info.xml")), .build 1, .finish 1]

theorem hostsAndInfo_visits : hostsAndInfo.visits = [⟨hostsAndInfo, hostsService⟩, ⟨hostsAndInfo, infoService⟩] := by
  rw [Device.visits]
  rfl

/-- Two tasks run interleaved, the second cancelled by the first one's failure:
the group and the walk in order both fail with the first service's error, as
the second service on its own builds. -/
theorem failing_fetch_cancels_other_task :
    Move.cancel ∉ firstFailsThenSecondFetches ∧
    (Group.run { parallelism := 2 } infoOnly 2 hostsAndInfo.visits (Group.init hostsAndInfo.visits.length #[])
      firstFailsThenSecondFetches).finished = true ∧
    (Group.run { parallelism := 2 } infoOnly 2 hostsAndInfo.visits (Group.init hostsAndInfo.visits.length #[])
      firstFailsThenSecondFetches).outcome {} = .error (.plain "down") ∧
    (({ parallelism := 0 } : Walker).walk infoOnly .live hostsAndInfo {}).result = .error (.plain "down") := by
  have hlive : Move.cancel ∉ firstFailsThenSecondFetches := by simp [firstFailsThenSecondFetches]
  have hfin : (Group.run { parallelism := 2 } infoOnly 2 hostsAndInfo.visits
      (Group.init hostsAndInfo.visits.length #[]) firstFailsThenSecondFetches).finished = true := by
    rw [hostsAndInfo_visits]
    decide +kernel
  have hfetch : ∀ url, Logged.IgnoresLog (infoOnly url) := by
    intro url
    unfold infoOnly
    split
    · exact Logged.ignoresLog_pure _
    · exact Logged.ignoresLog_throw _
  have hlen : hostsAndInfo.visits.length = 2 := by rw [hostsAndInfo_visits]; rfl
  have hhosts : (({ parallelism := 2 } : Walker).visit infoOnly false ⟨hostsAndInfo, hostsService⟩).result =
      .error (.plain "down") := by
    decide +kernel
  have hinfo : (({ parallelism := 2 } : Walker).visit infoOnly false ⟨hostsAndInfo, infoService⟩).result.toOption.isSome =
      true := by
    decide +kernel
  have hfail : (({ parallelism := 2 } : Walker).visit infoOnly false hostsAndInfo.visits[0]).result =
      .error (.plain "down") := by
    simp only [hostsAndInfo_visits, List.getElem_cons_zero]
    exact hhosts
  have honly : ∀ j (hj : j < hostsAndInfo.visits.length), j ≠ 0 →
      ∃ b, (({ parallelism := 2 } : Walker).visit infoOnly false hostsAndInfo.visits[j]).result = .ok b := by
    intro j hj hj0
    obtain rfl : j = 1 := by omega
    simp only [hostsAndInfo_visits, List.getElem_cons_succ, List.getElem_cons_zero]
    obtain ⟨b, hb⟩ := Option.isSome_iff_exists.mp hinfo
    exact ⟨b, eq_ok_of_toOption_eq_some hb⟩
  obtain ⟨hgroup, hwalk⟩ := (group_outcome_agrees_with_walk_in_order { parallelism := 2 } infoOnly hfetch
    hostsAndInfo {} 0 (by decide) #[] firstFailsThenSecondFetches hlive hfin).2 0 _ (by omega) hfail honly
  exact ⟨hlive, hfin, hgroup, hwalk⟩

end Walker

end UpnpBind
