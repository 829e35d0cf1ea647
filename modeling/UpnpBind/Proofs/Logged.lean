import Mathlib.Data.List.Forall2
import UpnpBind.Log

/-!
# Running logged computations

A logged computation is run from the log it starts with, and gives its result
with the log it leaves. This module gives that run for each way a computation
is put together, the run of `mapM` over a list (the computations one after
another, each from the log the one before left, stopping at the first
failure), and the computations whose result does not depend on the log they
start from: those that only write to it. For computations without a log, a
list of results succeeds when each element does and fails with the failure of
its first failing element.
-/

namespace UpnpBind.Logged

/-- The result of `m` run from the log `log`, and the log it leaves. -/
def runFrom {α : Type} (m : Logged α) (log : Array LogLine) : Except Error α × Array LogLine :=
  (ExceptT.run m).run log

section Runs

variable {α β : Type}

@[simp] theorem runFrom_pure (a : α) (σ : Array LogLine) : (pure a : Logged α).runFrom σ = (.ok a, σ) := rfl

@[simp] theorem runFrom_throw (e : Error) (σ : Array LogLine) :
    (throw e : Logged α).runFrom σ = (.error e, σ) := rfl

@[simp] theorem runFrom_log (l : LogLine) (σ : Array LogLine) : (log l).runFrom σ = (.ok (), σ.push l) := rfl

@[simp] theorem runFrom_get (σ : Array LogLine) : (get : Logged (Array LogLine)).runFrom σ = (.ok σ, σ) := rfl

@[simp] theorem runFrom_set (σ σ' : Array LogLine) : (set σ' : Logged Unit).runFrom σ = (.ok (), σ') := rfl

@[simp] theorem runFrom_ofExcept (r : Except Error α) (σ : Array LogLine) :
    (ofExcept r).runFrom σ = (r, σ) := by
  cases r <;> rfl

/-- A bound computation runs its first part, then the rest from the log the
first part left, unless the first part failed. -/
theorem runFrom_bind (m : Logged α) (f : α → Logged β) (σ : Array LogLine) :
    (m >>= f).runFrom σ =
      match m.runFrom σ with
      | (.ok a, σ') => (f a).runFrom σ'
      | (.error e, σ') => (.error e, σ') := by
  simp only [runFrom, ExceptT.run_bind, StateT.run_bind]
  rcases (ExceptT.run m).run σ with ⟨_ | a, σ'⟩ <;> rfl

/-- A first part that succeeds hands its result and its log on. -/
theorem runFrom_bind_of_ok {m : Logged α} {f : α → Logged β} {σ : Array LogLine} {a : α}
    (h : (m.runFrom σ).1 = .ok a) : (m >>= f).runFrom σ = (f a).runFrom (m.runFrom σ).2 := by
  rw [runFrom_bind]
  rcases hm : m.runFrom σ with ⟨r, σ'⟩
  rw [hm] at h
  cases h
  rfl

theorem runFrom_map (f : α → β) (m : Logged α) (σ : Array LogLine) :
    (f <$> m).runFrom σ =
      match m.runFrom σ with
      | (.ok a, σ') => (.ok (f a), σ')
      | (.error e, σ') => (.error e, σ') := by
  rw [← bind_pure_comp, runFrom_bind]
  rcases m.runFrom σ with ⟨_ | a, σ'⟩ <;> rfl

/-- The result of a whole run is the result of a run from the empty log. -/
theorem result_eq (m : Logged α) : m.result = (m.runFrom #[]).1 := rfl

end Runs

/-! ## Lists of computations -/

section MapM

variable {α β : Type}

/-- The elements of a list, run one after another by `f` from the log `σ`, all
succeed with the results `ys`, the last leaving the log `σ'`. -/
inductive Runs (f : α → Logged β) : Array LogLine → List α → List β → Array LogLine → Prop
  | nil (σ : Array LogLine) : Runs f σ [] [] σ
  | cons {σ σ₁ σ' : Array LogLine} {x : α} {xs : List α} {y : β} {ys : List β} :
      (f x).runFrom σ = (.ok y, σ₁) → Runs f σ₁ xs ys σ' → Runs f σ (x :: xs) (y :: ys) σ'

theorem mapM_cons_runFrom (f : α → Logged β) (x : α) (xs : List α) (σ : Array LogLine) :
    ((x :: xs).mapM f).runFrom σ =
      match (f x).runFrom σ with
      | (.ok y, σ₁) =>
        match (xs.mapM f).runFrom σ₁ with
        | (.ok ys, σ') => (.ok (y :: ys), σ')
        | (.error e, σ') => (.error e, σ')
      | (.error e, σ₁) => (.error e, σ₁) := by
  rw [List.mapM_cons, runFrom_bind]
  rcases (f x).runFrom σ with ⟨_ | y, σ₁⟩
  · rfl
  · simp only [runFrom_bind, runFrom_pure]
    rcases (xs.mapM f).runFrom σ₁ with ⟨_ | _, _⟩ <;> rfl

/-- `mapM` succeeds exactly when every element, run after the ones before it,
succeeds. -/
theorem mapM_runFrom_ok_iff (f : α → Logged β) (xs : List α) (ys : List β) (σ σ' : Array LogLine) :
    (xs.mapM f).runFrom σ = (.ok ys, σ') ↔ Runs f σ xs ys σ' := by
  induction xs generalizing σ ys with
  | nil =>
    constructor
    · intro h
      cases h
      exact .nil _
    · rintro ⟨⟩
      rfl
  | cons x xs ih =>
    rw [mapM_cons_runFrom]
    constructor
    · intro h
      rcases hx : (f x).runFrom σ with ⟨_ | y, σ₁⟩ <;> rw [hx] at h
      · cases h
      · rcases hxs : (xs.mapM f).runFrom σ₁ with ⟨_ | ys', σ₂⟩ <;> simp only [hxs] at h
        · cases h
        · cases h
          exact .cons hx ((ih _ _).mp hxs)
    · rintro ⟨⟩
      rename_i σ₁ y ys' hx hrest
      simp only [hx, (ih _ _).mpr hrest]

/-- `mapM` fails exactly when, for some position `k`, the elements before `k`
succeed one after another and the element at `k` then fails; the failure is
that element's and the log is the one it left, so no later element is run. -/
theorem mapM_runFrom_error_iff (f : α → Logged β) (xs : List α) (e : Error) (σ σ' : Array LogLine) :
    (xs.mapM f).runFrom σ = (.error e, σ') ↔
      ∃ k ys σₖ, ∃ hk : k < xs.length, Runs f σ (xs.take k) ys σₖ ∧ (f xs[k]).runFrom σₖ = (.error e, σ') := by
  induction xs generalizing σ with
  | nil =>
    constructor
    · intro h
      cases h
    · rintro ⟨k, _, _, hk, _⟩
      cases hk
  | cons x xs ih =>
    rw [mapM_cons_runFrom]
    constructor
    · intro h
      rcases hx : (f x).runFrom σ with ⟨e' | y, σ₁⟩ <;> rw [hx] at h
      · cases h
        exact ⟨0, [], σ, by simp, .nil σ, hx⟩
      · rcases hxs : (xs.mapM f).runFrom σ₁ with ⟨_ | _, σ₂⟩ <;> simp only [hxs] at h
        · cases h
          obtain ⟨k, ys, σₖ, hk, hruns, hfail⟩ := (ih σ₁).mp hxs
          exact ⟨k + 1, y :: ys, σₖ, by simpa using hk, .cons hx hruns, by simpa using hfail⟩
        · cases h
    · rintro ⟨k, ys, σₖ, hk, hruns, hfail⟩
      cases k with
      | zero =>
        cases hruns
        simp only [List.getElem_cons_zero] at hfail
        simp only [hfail]
      | succ k =>
        simp only [List.take_succ_cons] at hruns
        rcases hruns with _ | ⟨hx, hrest⟩
        simp only [hx, (ih _).mpr ⟨k, _, σₖ, by simpa using hk, hrest, by simpa using hfail⟩]

end MapM

/-! ## Computations that only write to the log -/

section IgnoresLog

variable {α β : Type}

/-- The result of `m` is the same whatever log it starts from. -/
def IgnoresLog (m : Logged α) : Prop := ∀ σ σ' : Array LogLine, (m.runFrom σ).1 = (m.runFrom σ').1

theorem IgnoresLog.runFrom_fst {m : Logged α} (h : IgnoresLog m) (σ : Array LogLine) :
    (m.runFrom σ).1 = m.result := h σ #[]

theorem ignoresLog_pure (a : α) : IgnoresLog (pure a : Logged α) := fun _ _ => rfl

theorem ignoresLog_throw (e : Error) : IgnoresLog (throw e : Logged α) := fun _ _ => rfl

theorem ignoresLog_log (l : LogLine) : IgnoresLog (log l) := fun _ _ => rfl

theorem IgnoresLog.bind {m : Logged α} {f : α → Logged β} (hm : IgnoresLog m) (hf : ∀ a, IgnoresLog (f a)) :
    IgnoresLog (m >>= f) := by
  intro σ σ'
  have h := hm σ σ'
  simp only [runFrom_bind]
  rcases hσ : m.runFrom σ with ⟨_ | a, σ₁⟩ <;> rcases hσ' : m.runFrom σ' with ⟨_ | a', σ₂⟩ <;>
    rw [hσ, hσ'] at h <;> cases h
  · rfl
  · exact hf a σ₁ σ₂

/-- Handing the result of `m` on to `f` gives what `m >>= f` gives, when what `f`
gives does not depend on the log. -/
theorem runFrom_ofExcept_result_bind {m : Logged α} {f : α → Logged β} (hf : ∀ a, IgnoresLog (f a))
    (σ : Array LogLine) : ((ofExcept m.result >>= f).runFrom σ).1 = (m >>= f).result := by
  rw [result_eq m, result_eq (m >>= f), runFrom_bind, runFrom_bind, runFrom_ofExcept]
  rcases m.runFrom #[] with ⟨e | a, σ'⟩
  · rfl
  · exact hf a σ σ'

/-- Run by `mapM`, computations that ignore the log give the results they give
alone, collected by the `mapM` of `Except`. -/
theorem mapM_runFrom_fst (f : α → Logged β) (hf : ∀ a, IgnoresLog (f a)) (xs : List α) (σ : Array LogLine) :
    ((xs.mapM f).runFrom σ).1 = xs.mapM (fun x => (f x).result) := by
  induction xs generalizing σ with
  | nil => rfl
  | cons x xs ih =>
    rw [mapM_cons_runFrom, List.mapM_cons]
    have hx := (hf x).runFrom_fst σ
    rcases hxr : (f x).runFrom σ with ⟨e | y, σ₁⟩ <;> rw [hxr] at hx <;> simp only at hx ⊢
    · rw [← hx]
      rfl
    · have hrest := ih σ₁
      rcases hxs : (xs.mapM f).runFrom σ₁ with ⟨_ | _, _⟩ <;> rw [hxs] at hrest <;> simp only at hrest ⊢ <;>
        rw [← hx, ← hrest] <;> rfl

end IgnoresLog

end UpnpBind.Logged

namespace UpnpBind

/-! ## Lists of results -/

section MapM

variable {α β ε : Type} {f : α → Except ε β}

/-- A list of results succeeds exactly when each element does. -/
theorem mapM_eq_ok_iff {xs : List α} {ys : List β} :
    xs.mapM f = .ok ys ↔ List.Forall₂ (fun x y => f x = .ok y) xs ys := by
  induction xs generalizing ys with
  | nil => cases ys <;> simp [pure, Except.pure]
  | cons x xs ih =>
    rw [List.mapM_cons]
    cases hx : f x with
    | error e => cases ys <;> simp [bind, Except.bind, hx]
    | ok y =>
      cases hxs : xs.mapM f with
      | error e => cases ys <;> simp [bind, Except.bind, ← ih, hxs, hx]
      | ok ys' => cases ys <;> simp [bind, Except.bind, pure, Except.pure, ← ih, hxs, hx]

/-- A list of results has some value exactly when each element has one. -/
theorem exists_mapM_eq_ok_iff {xs : List α} : (∃ ys, xs.mapM f = .ok ys) ↔ ∀ x ∈ xs, ∃ y, f x = .ok y := by
  induction xs with
  | nil => simp [pure, Except.pure]
  | cons x xs ih =>
    simp only [mapM_eq_ok_iff, List.forall₂_cons_left_iff, List.forall_mem_cons] at ih ⊢
    constructor
    · rintro ⟨_, y, ys, hy, hys, rfl⟩
      exact ⟨⟨y, hy⟩, ih.mp ⟨ys, hys⟩⟩
    · rintro ⟨⟨y, hy⟩, hrest⟩
      obtain ⟨ys, hys⟩ := ih.mpr hrest
      exact ⟨y :: ys, y, ys, hy, hys, rfl⟩

/-- A list of results fails with the failure of its first failing element. -/
theorem mapM_eq_error_iff {xs : List α} {e : ε} :
    xs.mapM f = .error e ↔
      ∃ pre x post, xs = pre ++ x :: post ∧ (∀ y ∈ pre, ∃ z, f y = .ok z) ∧ f x = .error e := by
  induction xs with
  | nil => simp [pure, Except.pure]
  | cons x xs ih =>
    rw [List.mapM_cons]
    constructor
    · intro h
      cases hx : f x with
      | error e' =>
        rw [hx] at h
        cases h
        exact ⟨[], x, xs, rfl, by simp, hx⟩
      | ok y =>
        -- the head succeeds, so the failure is the rest's
        have hrest : xs.mapM f = .error e := by
          rw [hx] at h
          cases hxs : xs.mapM f <;> simp_all [bind, Except.bind, pure, Except.pure]
        obtain ⟨pre, x', post, rfl, hpre, hx'⟩ := ih.mp hrest
        exact ⟨x :: pre, x', post, rfl, List.forall_mem_cons.mpr ⟨⟨y, hx⟩, hpre⟩, hx'⟩
    · rintro ⟨pre, x', post, hxs, hpre, hx'⟩
      cases pre with
      | nil =>
        obtain ⟨rfl, rfl⟩ := List.cons.inj hxs
        simp [hx', bind, Except.bind]
      | cons y pre =>
        obtain ⟨rfl, htail⟩ := List.cons.inj hxs
        obtain ⟨z, hz⟩ := hpre x (List.mem_cons_self ..)
        have hrest := ih.mpr ⟨pre, x', post, htail, fun y hy => hpre y (List.mem_cons_of_mem _ hy), hx'⟩
        simp [hz, hrest, bind, Except.bind]

/-- A result whose value is known is that value. -/
theorem eq_ok_of_toOption_eq_some {r : Except ε β} {b : β} (h : r.toOption = some b) : r = .ok b := by
  cases r with
  | error e => cases h
  | ok b' => cases h; rfl

/-- A list of results with one failure among them fails. -/
theorem mapM_ne_ok_of_mem {xs : List α} {x : α} {e : ε} (hx : x ∈ xs) (he : f x = .error e) (ys : List β) :
    xs.mapM f ≠ .ok ys := by
  intro h
  obtain ⟨y, hy⟩ := exists_mapM_eq_ok_iff.mp ⟨ys, h⟩ x hx
  rw [he] at hy
  cases hy

/-- A list of results whose only failure is at position `k` fails with it. -/
theorem mapM_eq_error_of_only (xs : List α) (k : Nat) (hk : k < xs.length) {e : ε} (he : f xs[k] = .error e)
    (honly : ∀ j (hj : j < xs.length), j ≠ k → ∃ b, f xs[j] = .ok b) : xs.mapM f = .error e := by
  have hsplit : xs = xs.take k ++ xs[k] :: xs.drop (k + 1) := by rw [List.getElem_cons_drop, List.take_append_drop]
  refine mapM_eq_error_iff.mpr ⟨xs.take k, xs[k], xs.drop (k + 1), hsplit, ?_, he⟩
  -- every element before position `k` succeeds
  intro y hy
  obtain ⟨j, hj, rfl⟩ := List.mem_iff_getElem.mp hy
  rw [List.length_take] at hj
  rw [List.getElem_take]
  exact honly j (by omega) (by omega)

end MapM

end UpnpBind
