import UpnpBind.Proofs.ActionModels

/-!
# Building a unit through a scratch name set

A unit is built into a scratch name set, whose names are added to the envelope
only once every action is complete. That is the same as building the service
description directly into the envelope, except that a failure gives back no
envelope, so the caller's stands as it was.

`buildUnit_agrees_with_build`: building a unit fails exactly when the service
type has no token, with that failure, or when the direct build fails, with the
direct build's failure, although the direct build would have added the names of
the actions before the failing one. It succeeds exactly when the token exists
and the direct build succeeds; the unit then has the direct build's action
models, the envelope is the one the direct build leaves, and the unit is named
by the normalized token.
-/

namespace UpnpBind.Model.Builder

open UpnpBind.Description

variable {b : Builder} {doc : ServiceDescription} {svc : Service}

/-- Models built one action after another are named by their actions, in order. -/
theorem names_of_mapM_action_eq_ok {as : List Action} {ms : List ActionModel}
    (h : as.mapM (b.action doc svc) = .ok ms) : ms.map (·.name) = as.map (·.name) := by
  have hmodels := mapM_eq_ok_iff.mp h
  clear h
  induction hmodels with
  | nil => rfl
  | cons hm _ ih => rw [List.map_cons, List.map_cons, name_of_action_eq_ok hm, ih]

/-- The models of a build do not depend on the envelope it starts from. -/
theorem build_fst_eq (env env₀ : NameSet) : (b.build doc svc env).1 = (b.build doc svc env₀).1 := by
  rw [build, build, actions_fst, actions_fst]

/-- A build that succeeds adds the names of its models to the envelope, in order. -/
theorem build_eq_of_fst_eq_ok {env : NameSet} {ms : List ActionModel} (h : (b.build doc svc env).1 = .ok ms) :
    b.build doc svc env = (.ok ms, env.add (ms.map (·.name))) := by
  have hms : doc.actions.mapM (b.action doc svc) = .ok ms := by rwa [build, actions_fst] at h
  have hall : ∀ a ∈ doc.actions, ∃ m, b.action doc svc a = .ok m := exists_mapM_eq_ok_iff.mp ⟨ms, hms⟩
  refine Prod.ext h ?_
  rw [build, actions_snd, names_completed_of_ok hall, names_of_mapM_action_eq_ok hms]

/-! ## Units -/

/-- Building a unit fails exactly when the token or the build into an empty set does. -/
theorem buildUnit_eq_error_iff {env : NameSet} {e : Failure} :
    b.buildUnit doc svc env = .error e ↔
      svc.token = .error e ∨ ∃ token, svc.token = .ok token ∧ (b.build doc svc .empty).1 = .error e := by
  unfold buildUnit unit
  cases svc.token with
  | error f => simp [bind, Except.bind]
  | ok token =>
    -- past the token, only the build's outcome decides
    rcases b.build doc svc .empty with ⟨_ | ms, names⟩ <;>
      simp [bind, Except.bind, pure, Except.pure, throw, throwThe, MonadExceptOf.throw]

/-- A unit built is the service's, named by its normalized token, with the
models of the build into an empty set and the envelope grown by their names. -/
theorem buildUnit_eq_ok_iff {env env' : NameSet} {u : ServiceUnit} :
    b.buildUnit doc svc env = .ok (u, env') ↔
      ∃ token, svc.token = .ok token ∧ (b.build doc svc .empty).1 = .ok u.actions ∧
        env' = env.add (u.actions.map (·.name)) ∧
        u = { serviceType := svc.serviceType, serviceId := svc.serviceId, controlUrl := svc.controlUrl,
              scpdUrl := svc.scpdUrl, name := b.names.normalize token, actions := u.actions } := by
  unfold buildUnit unit
  cases svc.token with
  | error f => simp [bind, Except.bind]
  | ok token =>
    rcases hbuild : b.build doc svc .empty with ⟨_ | ms, names⟩
    · simp [bind, Except.bind, throw, throwThe, MonadExceptOf.throw]
    · -- the scratch set holds the models' names, which the envelope gains as if added directly
      have hnames : names = NameSet.empty.add (ms.map (·.name)) := by
        have h := build_eq_of_fst_eq_ok (show (b.build doc svc .empty).1 = .ok ms by rw [hbuild])
        rw [hbuild] at h
        exact (Prod.mk.inj h).2
      simp only [bind, Except.bind, pure, Except.pure, Except.ok.injEq, Prod.mk.injEq,
        exists_eq_left', hnames, NameSet.add_names_empty_add]
      constructor
      · rintro ⟨rfl, rfl⟩
        exact ⟨rfl, rfl, rfl⟩
      · rintro ⟨rfl, rfl, hu⟩
        exact ⟨hu.symm, rfl⟩

/-- Building a unit into an envelope is building the service description
directly into it, apart from a failure, which leaves the envelope as it was.
It fails with `e` exactly when the service type has no token and that is `e`,
or it has one and the direct build fails with `e` (whatever names that build
would have added by then). It succeeds with `u` and envelope `env'` exactly when
the service type has a token and the direct build succeeds with `u`'s actions
and leaves `env'`; `u` is then the service's unit named by the normalized
token. -/
theorem buildUnit_agrees_with_build (b : Builder) (doc : ServiceDescription) (svc : Service) (env : NameSet) :
    (∀ e, b.buildUnit doc svc env = .error e ↔
      svc.token = .error e ∨ ∃ token, svc.token = .ok token ∧ (b.build doc svc env).1 = .error e) ∧
    (∀ u env', b.buildUnit doc svc env = .ok (u, env') ↔
      ∃ token, svc.token = .ok token ∧ b.build doc svc env = (.ok u.actions, env') ∧
        u = { serviceType := svc.serviceType, serviceId := svc.serviceId, controlUrl := svc.controlUrl,
              scpdUrl := svc.scpdUrl, name := b.names.normalize token, actions := u.actions }) := by
  refine ⟨fun e => ?_, fun u env' => ?_⟩
  · rw [buildUnit_eq_error_iff, build_fst_eq env .empty]
  · rw [buildUnit_eq_ok_iff]
    constructor
    · rintro ⟨token, htoken, hbuild, rfl, hu⟩
      rw [← build_fst_eq env .empty] at hbuild
      exact ⟨token, htoken, build_eq_of_fst_eq_ok hbuild, hu⟩
    · rintro ⟨token, htoken, hbuild, hu⟩
      have hfst : (b.build doc svc env).1 = .ok u.actions := congrArg Prod.fst hbuild
      refine ⟨token, htoken, build_fst_eq env .empty ▸ hfst, ?_, hu⟩
      rw [build_eq_of_fst_eq_ok hfst] at hbuild
      exact (congrArg Prod.snd hbuild).symm

end UpnpBind.Model.Builder
