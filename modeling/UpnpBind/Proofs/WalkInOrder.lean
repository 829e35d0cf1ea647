import UpnpBind.Walk
import UpnpBind.Proofs.Logged
import UpnpBind.Proofs.NameSet

/-!
# Walking a device tree one service after another

A walk below a parallelism of 2 is all-or-nothing. It succeeds exactly when
every service of the tree, in preorder and each from the log the one before
it left, gets through all of its steps: the context is live, the description
is fetched, it reads, and the service's unit builds. Then the set gains the
units in that order, each with its device's friendly name, and its envelope
names gain the first occurrences of the units' action names not already
there. Otherwise the walk fails with the error of the first service that does
not get through, and nothing after that service is run.

The steps of one visit are described by `GetsThrough`; `visit_runFrom_ok_iff`
shows that a visit succeeds exactly when its service gets through.
-/

namespace UpnpBind

open UpnpBind.Description UpnpBind.Model

/-! ## Building a unit -/

namespace Model.Builder

variable {b : Builder} {doc : ServiceDescription} {svc : Service}

theorem action_name {a : Action} {m : ActionModel} (h : b.action doc svc a = .ok m) : m.name = a.name := by
  unfold Builder.action at h
  cases hf : a.arguments.mapM (b.field doc svc a) with
  | error e => simp [hf, bind, Except.bind] at h
  | ok fields =>
    simp only [hf, bind, Except.bind, pure, Except.pure, Except.ok.injEq] at h
    rw [← h]

/-- A successful build adds the names of its actions, in order, to the envelope. -/
theorem actions_env {as : List Action} {env env' : NameSet} {ms : List ActionModel}
    (h : b.actions doc svc as env = (.ok ms, env')) : env' = env.add (ms.map (·.name)) := by
  induction as generalizing env ms with
  | nil =>
    simp only [Builder.actions, Prod.mk.injEq, Except.ok.injEq] at h
    obtain ⟨rfl, rfl⟩ := h
    rfl
  | cons a rest ih =>
    simp only [Builder.actions] at h
    split at h
    · cases h
    · rename_i m hm
      rcases hr : b.actions doc svc rest (env.insert a.name) with ⟨_ | ms', env''⟩ <;> rw [hr] at h <;>
        simp only [Except.map, Prod.mk.injEq, reduceCtorEq, false_and, Except.ok.injEq] at h
      obtain ⟨rfl, rfl⟩ := h
      rw [ih hr, List.map_cons, NameSet.add_cons, action_name hm]

/-- The names a unit is built with are its action names, each kept once. -/
theorem unit_names {u : ServiceUnit} {names : NameSet} (h : b.unit doc svc = .ok (u, names)) :
    names = NameSet.empty.add (u.actions.map (·.name)) := by
  unfold Builder.unit at h
  cases ht : svc.token with
  | error f => simp [ht, bind, Except.bind] at h
  | ok token =>
    rcases hb : b.build doc svc .empty with ⟨_ | ms, env⟩ <;>
      simp only [ht, hb, bind, Except.bind, pure, Except.pure, reduceCtorEq, Except.ok.injEq,
        Prod.mk.injEq] at h
    obtain ⟨rfl, rfl⟩ := h
    exact actions_env hb

end Model.Builder

namespace Walker

variable (w : Walker) (fetch : Fetch.Fetcher)

/-! ## The steps of a visit -/

/-- What building a visited service from a fetched text gives, apart from the
log: the failure to read the description, prefixed by its URL, the failure to
build the unit, or the unit with its device's friendly name and its names. -/
def buildResult (v : Visit) (text : String) : Except Error (ServiceUnit × NameSet) :=
  match ServiceDescription.read text with
  | .error f => .error (.context (w.url v) (.failure f))
  | .ok doc =>
    match w.builder.unit doc v.service with
    | .ok (u, names) => .ok ({ u with device := v.device.friendlyName }, names)
    | .error f => .error (.failure f)

/-- Logging the completed actions never fails. -/
theorem actionLines_runFrom_fst (svc : Service) (ms : List ActionModel) (σ : Array LogLine) :
    ((ms.forM (actionLine svc)).runFrom σ).1 = .ok () := by
  induction ms generalizing σ with
  | nil => rfl
  | cons m ms ih =>
    simp only [List.forM, Logged.runFrom_bind]
    exact ih _

theorem buildVisit_runFrom_fst (v : Visit) (text : String) (σ : Array LogLine) :
    ((w.buildVisit v text).runFrom σ).1 = w.buildResult v text := by
  unfold buildVisit buildResult
  cases hr : ServiceDescription.read text with
  | error f => rfl
  | ok doc =>
    dsimp only
    simp only [pure_bind]
    -- the action lines are logged only for a service type with a token, and never fail
    cases hu : w.builder.unit doc v.service with
    | error f =>
      split
      · rw [Logged.runFrom_bind_of_ok (actionLines_runFrom_fst _ _ σ)]
        rfl
      · rfl
    | ok p =>
      split
      · rw [Logged.runFrom_bind_of_ok (actionLines_runFrom_fst _ _ σ)]
        simp [Logged.runFrom_map, Logged.verbose]
      · simp [Logged.runFrom_map, Logged.verbose]

theorem buildVisit_ignoresLog (v : Visit) (text : String) : Logged.IgnoresLog (w.buildVisit v text) := by
  intro σ σ'
  rw [buildVisit_runFrom_fst, buildVisit_runFrom_fst]

/-- The unit of a visited service builds from `text` exactly when the text
reads as a description and the unit builds from it. -/
theorem buildResult_eq_ok_iff (v : Visit) (text : String) (u : ServiceUnit) (names : NameSet) :
    w.buildResult v text = .ok (u, names) ↔
      ∃ doc built, ServiceDescription.read text = .ok doc ∧ w.builder.unit doc v.service = .ok (built, names) ∧
        u = { built with device := v.device.friendlyName } := by
  unfold buildResult
  constructor
  · intro h
    cases hr : ServiceDescription.read text with
    | error f => simp [hr] at h
    | ok doc =>
      rcases hu : w.builder.unit doc v.service with f | ⟨built, names'⟩ <;> simp [hr, hu] at h
      obtain ⟨rfl, rfl⟩ := h
      exact ⟨doc, built, rfl, hu, rfl⟩
  · rintro ⟨doc, built, hr, hu, rfl⟩
    simp [hr, hu]

/-- A visit is refused under a cancelled context; otherwise it fetches, and if
the fetch succeeds, builds from the log the fetch left. -/
theorem visit_runFrom (cancelled : Bool) (v : Visit) (σ : Array LogLine) :
    (w.visit fetch cancelled v).runFrom σ =
      if cancelled then (.error canceledError, σ)
      else
        match (w.fetchDescription fetch v).runFrom σ with
        | (.ok text, σ₁) => (w.buildVisit v text).runFrom σ₁
        | (.error e, σ₁) => (.error e, σ₁) := by
  cases cancelled
  · simp only [visit, Bool.false_eq_true, if_false, Logged.runFrom_bind]
    rcases (w.fetchDescription fetch v).runFrom σ with ⟨_ | _, _⟩ <;> rfl
  · rfl

/-- Visiting `v` from the log `σ` gets through every step, leaving the log `σ'`:
the context is live, the fetch of the description succeeds with `text`, the
text reads as a description `doc`, the unit builds from it with the names
`names`, and `u` is that unit with its device's friendly name. -/
def GetsThrough (cancelled : Bool) (σ : Array LogLine) (v : Visit) (u : ServiceUnit) (names : NameSet)
    (σ' : Array LogLine) : Prop :=
  cancelled = false ∧ ∃ text σ₁ doc built,
    (w.fetchDescription fetch v).runFrom σ = (.ok text, σ₁) ∧
    ServiceDescription.read text = .ok doc ∧
    w.builder.unit doc v.service = .ok (built, names) ∧
    u = { built with device := v.device.friendlyName } ∧
    σ' = ((w.buildVisit v text).runFrom σ₁).2

/-- A visit succeeds exactly when its service gets through. -/
theorem visit_runFrom_ok_iff (cancelled : Bool) (v : Visit) (σ σ' : Array LogLine) (u : ServiceUnit)
    (names : NameSet) :
    (w.visit fetch cancelled v).runFrom σ = (.ok (u, names), σ') ↔ w.GetsThrough fetch cancelled σ v u names σ' := by
  rw [visit_runFrom]
  cases cancelled
  · simp only [Bool.false_eq_true, if_false]
    constructor
    · intro h
      rcases hf : (w.fetchDescription fetch v).runFrom σ with ⟨_ | text, σ₁⟩ <;> rw [hf] at h <;>
        simp only at h
      · cases h
      · have hres := w.buildVisit_runFrom_fst v text σ₁
        rw [h] at hres
        obtain ⟨doc, built, hr, hu, rfl⟩ := (w.buildResult_eq_ok_iff v text u names).mp hres.symm
        exact ⟨rfl, text, σ₁, doc, built, hf, hr, hu, rfl, by rw [h]⟩
    · rintro ⟨-, text, σ₁, doc, built, hf, hr, hu, rfl, rfl⟩
      rw [hf]
      have hres := w.buildVisit_runFrom_fst v text σ₁
      rw [(w.buildResult_eq_ok_iff v text _ names).mpr ⟨doc, built, hr, hu, rfl⟩] at hres
      exact Prod.ext hres rfl
  · simp [GetsThrough]

/-- The services `vs`, visited one after another from position `i` and the log
`σ`, each under the context as it finds it, all get through with the units and
names `built`; the last leaves the log `σ'`. -/
inductive AllGetThrough (ctx : Context) :
    Nat → Array LogLine → List Visit → List (ServiceUnit × NameSet) → Array LogLine → Prop
  | nil (i : Nat) (σ : Array LogLine) : AllGetThrough ctx i σ [] [] σ
  | cons {i : Nat} {σ σ₁ σ' : Array LogLine} {v : Visit} {vs : List Visit} {u : ServiceUnit} {names : NameSet}
      {built : List (ServiceUnit × NameSet)} :
      w.GetsThrough fetch (ctx.cancelledAt i) σ v u names σ₁ → AllGetThrough ctx (i + 1) σ₁ vs built σ' →
      AllGetThrough ctx i σ (v :: vs) ((u, names) :: built) σ'

theorem runs_visit_iff (ctx : Context) (i : Nat) (σ σ' : Array LogLine) (vs : List Visit)
    (built : List (ServiceUnit × NameSet)) :
    Logged.Runs (w.visitAt fetch ctx) σ (vs.zipIdx i) built σ' ↔ w.AllGetThrough fetch ctx i σ vs built σ' := by
  induction vs generalizing i σ built with
  | nil =>
    constructor
    · rintro ⟨⟩
      exact .nil _ _
    · rintro ⟨⟩
      exact .nil _
  | cons v vs ih =>
    rw [List.zipIdx_cons]
    constructor
    · rintro (_ | ⟨hv, hrest⟩)
      exact .cons ((w.visit_runFrom_ok_iff fetch _ v _ _ _ _).mp hv) ((ih _ _ _).mp hrest)
    · rintro (_ | ⟨hv, hrest⟩)
      exact .cons ((w.visit_runFrom_ok_iff fetch _ v _ _ _ _).mpr hv) ((ih _ _ _).mpr hrest)

/-- Every unit that gets through comes with its action names, each kept once. -/
theorem AllGetThrough.names_eq {ctx : Context} {i : Nat} {σ σ' : Array LogLine} {vs : List Visit}
    {built : List (ServiceUnit × NameSet)} (h : w.AllGetThrough fetch ctx i σ vs built σ') :
    ∀ b ∈ built, b.2 = NameSet.empty.add (b.1.actions.map (·.name)) := by
  induction h with
  | nil => simp
  | cons hv _ ih =>
    obtain ⟨-, text, σ₁, doc, built, -, -, hu, rfl, -⟩ := hv
    intro b hb
    rcases List.mem_cons.mp hb with rfl | hb
    · rw [Model.Builder.unit_names hu]
    · exact ih b hb

/-- Numbering the first `k` services is taking the first `k` numbered ones. -/
theorem zipIdx_take (vs : List Visit) (i k : Nat) : (vs.take k).zipIdx i = (vs.zipIdx i).take k := by
  induction vs generalizing i k with
  | nil => simp
  | cons v vs ih =>
    cases k with
    | zero => rfl
    | succ k => rw [List.take_succ_cons, List.zipIdx_cons, List.zipIdx_cons, List.take_succ_cons, ih]

/-- Visiting services from position `i` fails exactly when, for some service,
those before it get through and that one fails. -/
theorem visitsFrom_runFrom_error_iff (ctx : Context) (i : Nat) (vs : List Visit) (e : Error)
    (σ σ' : Array LogLine) :
    ((vs.zipIdx i).mapM (w.visitAt fetch ctx)).runFrom σ = (.error e, σ') ↔
      ∃ k built σₖ, ∃ hk : k < vs.length, w.AllGetThrough fetch ctx i σ (vs.take k) built σₖ ∧
        (w.visit fetch (ctx.cancelledAt (i + k)) vs[k]).runFrom σₖ = (.error e, σ') := by
  rw [Logged.mapM_runFrom_error_iff]
  simp only [List.length_zipIdx, ← zipIdx_take, runs_visit_iff, List.getElem_zipIdx]
  rfl

/-! ## Merging the units -/

/-- Merging built units into a set appends the units, adds their names, and
changes nothing else. -/
theorem foldl_merge (built : List (ServiceUnit × NameSet)) (out : OutputSet) :
    built.foldl merge out =
      { out with units := out.units ++ built.map (·.1),
                 envelopeNames := out.envelopeNames.add (built.flatMap (·.2.names)) } := by
  induction built generalizing out with
  | nil => simp
  | cons b bs ih =>
    rw [List.foldl_cons, ih]
    simp [merge, OutputSet.addNames, OutputSet.addUnits, NameSet.add_append]

/-- Adding the names units were built with is adding their action names. -/
theorem add_built_names (s : NameSet) (built : List (ServiceUnit × NameSet))
    (h : ∀ b ∈ built, b.2 = NameSet.empty.add (b.1.actions.map (·.name))) :
    s.add (built.flatMap (·.2.names)) = s.add (built.flatMap fun b => b.1.actions.map (·.name)) := by
  induction built generalizing s with
  | nil => rfl
  | cons b bs ih =>
    have hb := h b (List.mem_cons_self ..)
    rw [List.flatMap_cons, List.flatMap_cons, NameSet.add_append, NameSet.add_append, hb,
      NameSet.add_names_empty_add, ih _ fun b' hb' => h b' (List.mem_cons_of_mem _ hb')]

/-! ## The walk -/

theorem walk_eq_walkInOrder (hw : w.parallelism < 2) (ctx : Context) (root : Device) (out : OutputSet) :
    w.walk fetch ctx root out = w.walkInOrder fetch ctx root out := by
  simp [walk, hw]

theorem walkInOrder_runFrom (ctx : Context) (root : Device) (out : OutputSet) (σ : Array LogLine) :
    (w.walkInOrder fetch ctx root out).runFrom σ =
      match (root.visits.zipIdx.mapM (w.visitAt fetch ctx)).runFrom σ with
      | (.ok built, σ') => (.ok (built.foldl merge out), σ')
      | (.error e, σ') => (.error e, σ') := by
  unfold walkInOrder visitAll
  rw [Logged.runFrom_bind]
  rcases (root.visits.zipIdx.mapM (w.visitAt fetch ctx)).runFrom σ with ⟨_ | _, _⟩ <;> rfl

/-- The walk in order succeeds exactly when every visit does, and merges what
they built into the set. -/
theorem walkInOrder_runFrom_ok_iff (ctx : Context) (root : Device) (out o : OutputSet) (σ σ' : Array LogLine) :
    (w.walkInOrder fetch ctx root out).runFrom σ = (.ok o, σ') ↔
      ∃ built, (root.visits.zipIdx.mapM (w.visitAt fetch ctx)).runFrom σ = (.ok built, σ') ∧
        built.foldl merge out = o := by
  rw [walkInOrder_runFrom]
  rcases (root.visits.zipIdx.mapM (w.visitAt fetch ctx)).runFrom σ with ⟨_ | built, σ₁⟩
  · simp
  · constructor
    · rintro ⟨⟩
      exact ⟨built, rfl, rfl⟩
    · rintro ⟨_, ⟨⟩, rfl⟩
      rfl

/-- The walk in order fails exactly as its visits do. -/
theorem walkInOrder_runFrom_error_iff (ctx : Context) (root : Device) (out : OutputSet) (e : Error)
    (σ σ' : Array LogLine) :
    (w.walkInOrder fetch ctx root out).runFrom σ = (.error e, σ') ↔
      (root.visits.zipIdx.mapM (w.visitAt fetch ctx)).runFrom σ = (.error e, σ') := by
  rw [walkInOrder_runFrom]
  rcases (root.visits.zipIdx.mapM (w.visitAt fetch ctx)).runFrom σ with ⟨_ | built, σ₁⟩ <;> simp

/-- A set is its `out` with the units and envelope names replaced, when all
its other fields are those of `out`. -/
theorem eq_of_frame {o out : OutputSet} (hframe : { o with units := out.units, envelopeNames := out.envelopeNames } = out) :
    { out with units := o.units, envelopeNames := o.envelopeNames } = o := by
  obtain ⟨p, e, us, a, sm, rq, rs, fin⟩ := o
  obtain ⟨p', e', us', a', sm', rq', rs', fin'⟩ := out
  simp only [OutputSet.mk.injEq] at hframe
  obtain ⟨rfl, -, -, rfl, rfl, rfl, rfl, rfl⟩ := hframe
  rfl

/-- A walk below a parallelism of 2 is all-or-nothing. Run from the log `σ`, it
succeeds exactly when every service of the tree, in preorder, gets through,
each under the context as it finds it and from the log the one before it
left; the set then gains the units in that order and, after its envelope
names, the first occurrences of their action names not already there, and
nothing else changes. It fails exactly when, for some service, those before it
get through and that one does not: the error and the final log are that
visit's, so no service after it is fetched. -/
theorem walk_all_or_nothing (w : Walker) (hw : w.parallelism < 2) (fetch : Fetch.Fetcher) (ctx : Context)
    (root : Device) (out : OutputSet) (σ : Array LogLine) :
    (∀ o σ', (w.walk fetch ctx root out).runFrom σ = (.ok o, σ') ↔
      ∃ built, w.AllGetThrough fetch ctx 0 σ root.visits built σ' ∧
        o.units = out.units ++ built.map (·.1) ∧
        o.envelopeNames.names =
          (out.envelopeNames.names ++ built.flatMap fun b => b.1.actions.map (·.name)).eraseDups ∧
        { o with units := out.units, envelopeNames := out.envelopeNames } = out) ∧
    (∀ e σ', (w.walk fetch ctx root out).runFrom σ = (.error e, σ') ↔
      ∃ k built σₖ, ∃ hk : k < root.visits.length,
        w.AllGetThrough fetch ctx 0 σ (root.visits.take k) built σₖ ∧
        (w.visit fetch (ctx.cancelledAt k) root.visits[k]).runFrom σₖ = (.error e, σ')) := by
  rw [w.walk_eq_walkInOrder fetch hw]
  refine ⟨fun o σ' => ?_, fun e σ' => ?_⟩
  · rw [walkInOrder_runFrom_ok_iff]
    constructor
    · rintro ⟨built, hm, rfl⟩
      have hall := (w.runs_visit_iff fetch _ _ _ _ _ _).mp ((Logged.mapM_runFrom_ok_iff _ _ _ _ _).mp hm)
      rw [foldl_merge]
      exact ⟨built, hall, rfl, by rw [add_built_names _ _ (hall.names_eq w fetch), NameSet.names_add], rfl⟩
    · rintro ⟨built, hall, hunits, hnames, hframe⟩
      refine ⟨built, (Logged.mapM_runFrom_ok_iff _ _ _ _ _).mpr ((w.runs_visit_iff fetch _ _ _ _ _ _).mpr hall), ?_⟩
      -- the set is fixed by its units, its envelope names and the fields of `out`
      have henv : out.envelopeNames.add (built.flatMap (·.2.names)) = o.envelopeNames := by
        apply NameSet.ext
        rw [add_built_names _ _ (hall.names_eq w fetch), NameSet.names_add, hnames]
      rw [foldl_merge, henv, ← hunits]
      exact eq_of_frame hframe
  · rw [walkInOrder_runFrom_error_iff, visitsFrom_runFrom_error_iff]
    simp only [Nat.zero_add]

/-- A walk of a device with one service, under a context cancelled before it,
fails at that service with the cancellation error, before any fetch and
without logging. -/
theorem walk_cancelled_one_service :
    (({} : Walker).walk (fun _ => pure "") (.ofCancelled true) { services := [{}] } {}).runFrom #[] =
      (.error canceledError, #[]) :=
  ((walk_all_or_nothing {} (by decide) (fun _ => pure "") (.ofCancelled true) { services := [{}] } {} #[]).2 _ _).mpr
    ⟨0, [], #[], by rw [Device.visits]; simp, .nil _ _, rfl⟩

end Walker

end UpnpBind
