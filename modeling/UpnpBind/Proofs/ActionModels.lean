import Mathlib.Data.List.Forall2
import UpnpBind.Model.Builder
import UpnpBind.Proofs.NameSet
import UpnpBind.Proofs.Logged

/-!
# Building the models of a service's actions

Building the models of a service description succeeds exactly when every
argument of every action resolves (`Builder.Resolves`): the first state
variable of its related name is in the description, the table maps that
variable's data type, and the argument goes in or out. Each action then has
one model, in document order, named by the action, whose parameters are the
fields of the arguments that go in and whose response fields are those of the
arguments that go out, each in document order (`Builder.ModelsAction`); the
envelope has gained the action names in order.

Otherwise the build fails at the first argument that does not resolve, taken
action by action and argument by argument, with the failure of the first check
that argument fails (`Builder.ArgumentFailure`): an unknown state variable,
then an unmapped data type, then a direction. The failure names the service,
the action and the argument, and the envelope has gained the names of the
actions before that argument's action, and no others.

The models and the failure do not depend on the envelope, so a build that
keeps no envelope gives the same ones.

Main statement: `Builder.build_models_actions_or_fails_at_first_argument`.
-/

namespace UpnpBind

open UpnpBind.Description UpnpBind.Model

/-! ## State variables -/

namespace Description.ServiceDescription

/-- `v` is the first state variable of `doc` named `name`. -/
def FirstVariable (doc : ServiceDescription) (name : String) (v : StateVariable) : Prop :=
  ∃ before after, doc.stateVariables = before ++ v :: after ∧ v.name = name ∧ ∀ w ∈ before, w.name ≠ name

variable {doc : ServiceDescription} {name : String} {v w : StateVariable}

/-- The state variable of a name is the first one of that name. -/
theorem stateVariable?_eq_some_iff : doc.stateVariable? name = some v ↔ doc.FirstVariable name v := by
  rw [stateVariable?, List.find?_eq_some_iff_append]
  simp only [beq_iff_eq, Bool.not_eq_true', beq_eq_false_iff_ne, FirstVariable]
  constructor
  · rintro ⟨hv, before, after, hdoc, hbefore⟩
    exact ⟨before, after, hdoc, hv, hbefore⟩
  · rintro ⟨before, after, hdoc, hv, hbefore⟩
    exact ⟨hv, before, after, hdoc, hbefore⟩

theorem stateVariable?_eq_none_iff : doc.stateVariable? name = none ↔ ∀ w ∈ doc.stateVariables, w.name ≠ name := by
  simp [stateVariable?]

theorem FirstVariable.unique (hv : doc.FirstVariable name v) (hw : doc.FirstVariable name w) : v = w := by
  rw [← stateVariable?_eq_some_iff] at hv hw
  exact Option.some.inj (hv.symm.trans hw)

end Description.ServiceDescription

/-! ## What the builder models -/

namespace Model.Builder

variable (b : Builder) (doc : ServiceDescription) (svc : Service)

/-- The field argument `arg` is modelled by: named by the argument, typed by the
first state variable of its related name through the type table, and
documented by that variable's default and allowed values. -/
def ArgumentField (arg : Argument) (f : Field) : Prop :=
  ∃ v t, doc.FirstVariable arg.relatedStateVariable v ∧ b.types.resolve v.dataType = .ok t ∧
    f = { rawName := arg.name, name := b.names.normalize arg.name, type := t,
          default := v.defaultValue, allowedValues := v.allowedValues }

/-- An argument the builder models: it has a field, and it goes in or out. -/
def Resolves (arg : Argument) : Prop :=
  (∃ f, b.ArgumentField doc arg f) ∧ (arg.direction = .input ∨ arg.direction = .output)

/-- The model of action `a`: named by the action, with the fields of its
arguments that go in as parameters and of those that go out as response
fields, each in document order. -/
def ModelsAction (a : Action) (m : ActionModel) : Prop :=
  m.name = a.name ∧ m.responseTypeName = Naming.responseTypeName a.name ∧
    m.requestFunctionName = b.names.normalize a.name ∧
    List.Forall₂ (b.ArgumentField doc) (a.arguments.filter (·.direction == .input)) m.parameters ∧
    List.Forall₂ (b.ArgumentField doc) (a.arguments.filter (·.direction == .output)) m.responseFields

/-- The failure argument `arg` of action `a` stops the build with. The first of
three checks it fails decides: no state variable of its related name, a data
type the table does not map, or a direction that is neither in nor out. The
failure names the service, the action and the argument. -/
def ArgumentFailure (a : Action) (arg : Argument) (e : Failure) : Prop :=
  ((∀ w ∈ doc.stateVariables, w.name ≠ arg.relatedStateVariable) ∧
      e = { kind := .unknownStateVariable, tag := arg.relatedStateVariable, service := svc.serviceType,
            action := a.name, argument := arg.name }) ∨
    (∃ v, doc.FirstVariable arg.relatedStateVariable v ∧ (∀ t, b.types.resolve v.dataType ≠ .ok t) ∧
      e = { kind := .unmappedType, tag := v.dataType, service := svc.serviceType, action := a.name,
            argument := arg.name, message := "state variable " ++ v.name }) ∨
    ((∃ f, b.ArgumentField doc arg f) ∧ arg.direction ≠ .input ∧ arg.direction ≠ .output ∧
      e = { kind := .parse, tag := "direction", service := svc.serviceType, action := a.name,
            argument := arg.name })

variable {b doc svc}

theorem ArgumentField.unique {arg : Argument} {f g : Field} (hf : b.ArgumentField doc arg f)
    (hg : b.ArgumentField doc arg g) : f = g := by
  obtain ⟨v, t, hv, ht, rfl⟩ := hf
  obtain ⟨v', t', hv', ht', rfl⟩ := hg
  obtain rfl := hv.unique hv'
  obtain rfl : t = t' := Except.ok.inj (ht.symm.trans ht')
  rfl

/-! ## Arguments -/

/-- The argument field in terms of the lookup the builder does. -/
theorem argumentField_iff {arg : Argument} {f : Field} :
    b.ArgumentField doc arg f ↔ ∃ v t, doc.stateVariable? arg.relatedStateVariable = some v ∧
      b.types.resolve v.dataType = .ok t ∧
      f = { rawName := arg.name, name := b.names.normalize arg.name, type := t,
            default := v.defaultValue, allowedValues := v.allowedValues } := by
  simp only [ArgumentField, ServiceDescription.stateVariable?_eq_some_iff]

/-- An argument's field is its argument field, with whether it goes in. -/
theorem field_eq_ok_iff {a : Action} {arg : Argument} {f : Field} {isIn : Bool} :
    b.field doc svc a arg = .ok (f, isIn) ↔
      b.ArgumentField doc arg f ∧ (arg.direction = .input ∧ isIn = true ∨ arg.direction = .output ∧ isIn = false) := by
  rw [argumentField_iff]
  unfold Builder.field
  -- the three checks in order: the lookup, the data type, the direction
  cases hv : doc.stateVariable? arg.relatedStateVariable with
  | none => simp [throw, throwThe, MonadExceptOf.throw]
  | some v =>
    cases ht : b.types.resolve v.dataType with
    | error _ => simp [ht, bind, Except.bind, throw, throwThe, MonadExceptOf.throw]
    | ok t =>
      cases hdir : arg.direction <;>
        simp [ht, bind, Except.bind, pure, Except.pure, throw, throwThe, MonadExceptOf.throw, eq_comm]

/-- An argument has a field exactly when it resolves. -/
theorem exists_field_eq_ok_iff {a : Action} {arg : Argument} :
    (∃ fb, b.field doc svc a arg = .ok fb) ↔ b.Resolves doc arg := by
  constructor
  · rintro ⟨⟨f, isIn⟩, h⟩
    obtain ⟨hf, hdir⟩ := field_eq_ok_iff.mp h
    exact ⟨⟨f, hf⟩, hdir.imp (·.1) (·.1)⟩
  · rintro ⟨⟨f, hf⟩, hdir | hdir⟩
    · exact ⟨(f, true), field_eq_ok_iff.mpr ⟨hf, .inl ⟨hdir, rfl⟩⟩⟩
    · exact ⟨(f, false), field_eq_ok_iff.mpr ⟨hf, .inr ⟨hdir, rfl⟩⟩⟩

/-- An argument fails with the failure of the first check it fails. -/
theorem field_eq_error_iff {a : Action} {arg : Argument} {e : Failure} :
    b.field doc svc a arg = .error e ↔ b.ArgumentFailure doc svc a arg e := by
  simp only [ArgumentFailure, argumentField_iff, ← ServiceDescription.stateVariable?_eq_some_iff,
    ← ServiceDescription.stateVariable?_eq_none_iff]
  unfold Builder.field
  -- the three checks in order: the lookup, the data type, the direction
  cases hv : doc.stateVariable? arg.relatedStateVariable with
  | none => simp [throw, throwThe, MonadExceptOf.throw, Failure.raise, argumentDetails, Failure.withDetail, eq_comm]
  | some v =>
    cases ht : b.types.resolve v.dataType with
    | error _ => simp [ht, bind, Except.bind, throw, throwThe, MonadExceptOf.throw, Failure.raise, argumentDetails,
        Failure.withDetail, eq_comm]
    | ok t =>
      cases hdir : arg.direction <;>
        simp [ht, bind, Except.bind, pure, Except.pure, throw, throwThe, MonadExceptOf.throw, Failure.raise,
          argumentDetails, Failure.withDetail, eq_comm]

/-! ## Actions -/

/-- The arguments whose fields go in (or out), as their argument fields. -/
theorem forall₂_argumentField_filter {args : List Argument} {fields : List (Field × Bool)} {a : Action}
    (h : List.Forall₂ (fun arg fb => b.field doc svc a arg = .ok fb) args fields) (dir : Direction)
    (goes : Bool → Bool) (hgoes : ∀ arg fb, b.field doc svc a arg = .ok fb → (arg.direction == dir) = goes fb.2) :
    List.Forall₂ (b.ArgumentField doc) (args.filter (·.direction == dir)) ((fields.filter (goes ·.2)).map (·.1)) := by
  rw [List.forall₂_map_right_iff]
  refine (List.rel_filter (fun arg fb hfb => ?_) h).imp fun arg fb hfb => (field_eq_ok_iff.mp hfb).1
  show (arg.direction == dir) = true ↔ goes fb.2 = true
  rw [hgoes arg fb hfb]

theorem ModelsAction.unique {a : Action} {m m' : ActionModel} (h : b.ModelsAction doc a m)
    (h' : b.ModelsAction doc a m') : m = m' := by
  have hunique : Relator.RightUnique (b.ArgumentField doc) := fun _ _ _ => ArgumentField.unique
  obtain ⟨n, r, q, ps, rs⟩ := m
  obtain ⟨n', r', q', ps', rs'⟩ := m'
  obtain ⟨rfl, rfl, rfl, hps, hrs⟩ := h
  obtain ⟨hn, hr, hq, hps', hrs'⟩ := h'
  simp only [ActionModel.mk.injEq]
  exact ⟨hn.symm, hr.symm, hq.symm, List.right_unique_forall₂' hunique hps hps',
    List.right_unique_forall₂' hunique hrs hrs'⟩

/-- A built action model models the action, and every argument of the action resolves. -/
theorem resolves_and_modelsAction_of_action_eq_ok {a : Action} {m : ActionModel} (h : b.action doc svc a = .ok m) :
    (∀ arg ∈ a.arguments, b.Resolves doc arg) ∧ b.ModelsAction doc a m := by
  unfold Builder.action at h
  cases hm : a.arguments.mapM (b.field doc svc a) with
  | error e => simp [hm, bind, Except.bind] at h
  | ok fields =>
    simp only [hm, bind, Except.bind, pure, Except.pure, Except.ok.injEq] at h
    subst h
    have hfields := mapM_eq_ok_iff.mp hm
    -- a field goes in exactly when its argument does, and out exactly when it does not
    have hgoes : ∀ arg fb, b.field doc svc a arg = .ok fb →
        (arg.direction == .input) = fb.2 ∧ (arg.direction == .output) = !fb.2 := by
      rintro arg ⟨f, isIn⟩ hfb
      rcases (field_eq_ok_iff.mp hfb).2 with ⟨hdir, rfl⟩ | ⟨hdir, rfl⟩ <;> simp [hdir]
    refine ⟨fun arg harg => exists_field_eq_ok_iff.mp (exists_mapM_eq_ok_iff.mp ⟨fields, hm⟩ arg harg),
      rfl, rfl, rfl, ?_, ?_⟩
    · exact forall₂_argumentField_filter hfields .input id fun arg fb hfb => (hgoes arg fb hfb).1
    · exact forall₂_argumentField_filter hfields .output (!·) fun arg fb hfb => (hgoes arg fb hfb).2

/-- An action has a model exactly when all its arguments resolve. -/
theorem exists_action_eq_ok_iff {a : Action} :
    (∃ m, b.action doc svc a = .ok m) ↔ ∀ arg ∈ a.arguments, b.Resolves doc arg := by
  constructor
  · rintro ⟨m, hm⟩
    exact (resolves_and_modelsAction_of_action_eq_ok hm).1
  · intro hres
    obtain ⟨fields, hm⟩ : ∃ fields, a.arguments.mapM (b.field doc svc a) = .ok fields :=
      exists_mapM_eq_ok_iff.mpr fun arg harg => exists_field_eq_ok_iff.mpr (hres arg harg)
    rw [Builder.action, hm]
    exact ⟨_, rfl⟩

/-- An action's model is its model, once all its arguments resolve. -/
theorem action_eq_ok_iff {a : Action} {m : ActionModel} :
    b.action doc svc a = .ok m ↔ (∀ arg ∈ a.arguments, b.Resolves doc arg) ∧ b.ModelsAction doc a m := by
  constructor
  · exact resolves_and_modelsAction_of_action_eq_ok
  · rintro ⟨hres, hmodel⟩
    obtain ⟨m', hm'⟩ := exists_action_eq_ok_iff.mpr hres
    rw [hm', (resolves_and_modelsAction_of_action_eq_ok hm').2.unique hmodel]

/-- An action fails at its first argument that does not resolve. -/
theorem action_eq_error_iff {a : Action} {e : Failure} :
    b.action doc svc a = .error e ↔
      ∃ pre arg post, a.arguments = pre ++ arg :: post ∧ (∀ x ∈ pre, b.Resolves doc x) ∧
        b.ArgumentFailure doc svc a arg e := by
  have hfields : b.action doc svc a = .error e ↔ a.arguments.mapM (b.field doc svc a) = .error e := by
    unfold Builder.action
    cases a.arguments.mapM (b.field doc svc a) <;> simp [bind, Except.bind, pure, Except.pure]
  rw [hfields, mapM_eq_error_iff]
  simp only [exists_field_eq_ok_iff, field_eq_error_iff]

theorem name_of_action_eq_ok {a : Action} {m : ActionModel} (h : b.action doc svc a = .ok m) : m.name = a.name :=
  (action_eq_ok_iff.mp h).2.1

/-! ## Lists of actions -/

/-- The models a build gives are those of its actions, one after another,
whatever the envelope. -/
theorem actions_fst (as : List Action) (env : NameSet) :
    (b.actions doc svc as env).1 = as.mapM (b.action doc svc) := by
  induction as generalizing env with
  | nil => rfl
  | cons a rest ih =>
    simp only [Builder.actions, List.mapM_cons]
    cases b.action doc svc a with
    | error f => rfl
    | ok m =>
      have hrest := ih (env.insert a.name)
      revert hrest
      rcases b.actions doc svc rest (env.insert a.name) with ⟨r, env'⟩
      rintro rfl
      cases rest.mapM (b.action doc svc) <;> rfl

/-- The envelope after a build has gained the names of the actions it completed. -/
theorem actions_snd (as : List Action) (env : NameSet) :
    (b.actions doc svc as env).2 = env.add ((b.completed doc svc as).map (·.name)) := by
  induction as generalizing env with
  | nil => rfl
  | cons a rest ih =>
    simp only [Builder.actions, Builder.completed]
    cases ha : b.action doc svc a with
    | error f => rfl
    | ok m => simp only [ih, List.map_cons, NameSet.add_cons, name_of_action_eq_ok ha]

/-- Once every action has a model, the build completes all of them. -/
theorem names_completed_of_ok {as : List Action} (h : ∀ a ∈ as, ∃ m, b.action doc svc a = .ok m) :
    (b.completed doc svc as).map (·.name) = as.map (·.name) := by
  induction as with
  | nil => rfl
  | cons a rest ih =>
    obtain ⟨m, hm⟩ := h a (List.mem_cons_self ..)
    simp only [Builder.completed, hm, List.map_cons, name_of_action_eq_ok hm,
      ih fun a' ha' => h a' (List.mem_cons_of_mem _ ha')]

/-- A build stops completing actions at the first one that fails. -/
theorem names_completed_of_error {pre post : List Action} {a : Action} {e : Failure}
    (hpre : ∀ a' ∈ pre, ∃ m, b.action doc svc a' = .ok m) (ha : b.action doc svc a = .error e) :
    (b.completed doc svc (pre ++ a :: post)).map (·.name) = pre.map (·.name) := by
  induction pre with
  | nil => simp [Builder.completed, ha]
  | cons p pre ih =>
    obtain ⟨m, hm⟩ := hpre p (List.mem_cons_self ..)
    simp only [List.cons_append, Builder.completed, hm, List.map_cons, name_of_action_eq_ok hm,
      ih fun a' ha' => hpre a' (List.mem_cons_of_mem _ ha')]

/-! ## The build -/

/-- Building a service description either models every action, adding every
action name to the envelope in order, or fails at the first argument that
does not resolve, adding the names of the actions before it only. Precisely:
the models and the failure do not depend on the envelope; the build succeeds
exactly when every argument of every action resolves; it then gives one model
per action, in document order, and the envelope gains the action names; it
fails with `e` exactly when some argument fails with `e` (the first check it
fails deciding), every argument before it in its action and every argument of
every action before that action resolving, and the envelope then gains the
names of the actions before. -/
theorem build_models_actions_or_fails_at_first_argument (b : Builder) (doc : ServiceDescription) (svc : Service)
    (env : NameSet) :
    (∀ env₀, (b.build doc svc env₀).1 = (b.build doc svc env).1) ∧
    ((∃ ms, (b.build doc svc env).1 = .ok ms) ↔ ∀ a ∈ doc.actions, ∀ arg ∈ a.arguments, b.Resolves doc arg) ∧
    (∀ ms env', b.build doc svc env = (.ok ms, env') ↔
      (∀ a ∈ doc.actions, ∀ arg ∈ a.arguments, b.Resolves doc arg) ∧
        List.Forall₂ (b.ModelsAction doc) doc.actions ms ∧ env' = env.add (doc.actions.map (·.name))) ∧
    (∀ e env', b.build doc svc env = (.error e, env') ↔
      ∃ pre a post preArgs arg postArgs, doc.actions = pre ++ a :: post ∧ a.arguments = preArgs ++ arg :: postArgs ∧
        (∀ a' ∈ pre, ∀ x ∈ a'.arguments, b.Resolves doc x) ∧ (∀ x ∈ preArgs, b.Resolves doc x) ∧
        b.ArgumentFailure doc svc a arg e ∧ env' = env.add (pre.map (·.name))) := by
  refine ⟨fun env₀ => by rw [build, build, actions_fst, actions_fst], ?_, fun ms env' => ?_, fun e env' => ?_⟩
  · rw [build, actions_fst, exists_mapM_eq_ok_iff]
    simp only [exists_action_eq_ok_iff]
  · rw [build, Prod.ext_iff, actions_fst, actions_snd, mapM_eq_ok_iff]
    simp only [action_eq_ok_iff, List.forall₂_and_left]
    constructor
    · rintro ⟨⟨hres, hmodels⟩, rfl⟩
      refine ⟨hres, hmodels, ?_⟩
      rw [names_completed_of_ok fun a ha => exists_action_eq_ok_iff.mpr (hres a ha)]
    · rintro ⟨hres, hmodels, rfl⟩
      refine ⟨⟨hres, hmodels⟩, ?_⟩
      rw [names_completed_of_ok fun a ha => exists_action_eq_ok_iff.mpr (hres a ha)]
  · rw [build, Prod.ext_iff, actions_fst, actions_snd, mapM_eq_error_iff]
    simp only [action_eq_error_iff, exists_action_eq_ok_iff]
    constructor
    · rintro ⟨⟨pre, a, post, hdoc, hpre, preArgs, arg, postArgs, hargs, hpreArgs, hfail⟩, rfl⟩
      refine ⟨pre, a, post, preArgs, arg, postArgs, hdoc, hargs, hpre, hpreArgs, hfail, ?_⟩
      rw [hdoc, names_completed_of_error (fun a' ha' => exists_action_eq_ok_iff.mpr (hpre a' ha'))
        (action_eq_error_iff.mpr ⟨preArgs, arg, postArgs, hargs, hpreArgs, hfail⟩)]
    · rintro ⟨pre, a, post, preArgs, arg, postArgs, hdoc, hargs, hpre, hpreArgs, hfail, rfl⟩
      refine ⟨⟨pre, a, post, hdoc, hpre, preArgs, arg, postArgs, hargs, hpreArgs, hfail⟩, ?_⟩
      rw [hdoc, names_completed_of_error (fun a' ha' => exists_action_eq_ok_iff.mpr (hpre a' ha'))
        (action_eq_error_iff.mpr ⟨preArgs, arg, postArgs, hargs, hpreArgs, hfail⟩)]

end Model.Builder

end UpnpBind
