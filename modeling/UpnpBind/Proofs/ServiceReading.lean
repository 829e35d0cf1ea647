import Mathlib.Data.List.DropRight
import UpnpBind.Description.Scpd
import UpnpBind.Proofs.DeviceReading
import UpnpBind.Proofs.ActionModels

/-!
# Reading service descriptions

Reading a service description stops at its first fault in document order: a
numeric field of the specification version that is not accepted (as for
device descriptions), then, action by action, an action without a name before
an argument of that action that names no direction. An argument names a
direction when the trimmed text of its `direction` child is "in" or "out" in
any case (`NamesDirection`); a fault there is reported with the action's and
the argument's names (`directionFailure`).

`read_fails_at_first_fault_or_lists_in_order`: reading a text gives a service
description exactly when the text is a document with an `scpd` element whose
specification version is accepted and whose actions are all readable
(`ActionReadable`); the description then lists the actions (`actionOf`), their
arguments (`argumentOf`) and the state variables in document order. It fails
exactly when the document cannot be read, has no `scpd` element, or with the
first fault in document order (`ActionFails`).
-/

namespace UpnpBind.Text

/-- Trimming a trimmed list changes nothing: its front is not blank, and
cutting its back keeps its front. -/
theorem trimBlankList_trimBlankList (cs : List Char) : trimBlankList (trimBlankList cs) = trimBlankList cs := by
  have htrim : ∀ l, trimBlankList l = (l.dropWhile isBlank).rdropWhile isBlank := fun _ => rfl
  have hfront : ((cs.dropWhile isBlank).rdropWhile isBlank).dropWhile isBlank =
      (cs.dropWhile isBlank).rdropWhile isBlank := by
    rw [List.dropWhile_eq_self_iff]
    intro hl
    have hhead := List.dropWhile_get_zero_not isBlank cs
      (Nat.lt_of_lt_of_le hl (List.rdropWhile_prefix isBlank _).length_le)
    rwa [List.get_eq_getElem, ← (List.rdropWhile_prefix isBlank _).getElem hl] at hhead
  rw [htrim, htrim, hfront, List.rdropWhile_idempotent]

theorem trimBlank_trimBlank (s : String) : trimBlank (trimBlank s) = trimBlank s := by
  simp only [trimBlank, String.toList_ofList, trimBlankList_trimBlankList]

end UpnpBind.Text

namespace UpnpBind.Description

open UpnpBind.Xml UpnpBind.Text

/-! ## Lists read element by element -/

section MapM

variable {α β ε : Type} {f : α → Except ε β} {P : α → Prop} {g : α → β}

/-- Where an element is read exactly when it satisfies `P`, and then as `g`
gives it, a list is read exactly when all its elements satisfy `P`. -/
theorem mapM_eq_ok_iff_map (hf : ∀ x y, f x = .ok y ↔ P x ∧ y = g x) {xs : List α} {ys : List β} :
    xs.mapM f = .ok ys ↔ (∀ x ∈ xs, P x) ∧ ys = xs.map g := by
  rw [mapM_eq_ok_iff]
  simp only [hf]
  induction xs generalizing ys with
  | nil => cases ys <;> simp
  | cons x xs ih =>
    cases ys with
    | nil => simp
    | cons y ys => simp [ih, and_and_and_comm]

/-- Where an element is read exactly when it satisfies `P`, a list fails with
the failure of its first element that does not. -/
theorem mapM_eq_error_iff_first (hf : ∀ x y, f x = .ok y ↔ P x ∧ y = g x) {xs : List α} {e : ε} :
    xs.mapM f = .error e ↔ ∃ pre x post, xs = pre ++ x :: post ∧ (∀ y ∈ pre, P y) ∧ f x = .error e := by
  have hread : ∀ y, (∃ z, f y = .ok z) ↔ P y := fun y => by simp [hf]
  simp only [mapM_eq_error_iff, hread]

/-- A list that fails to be read has an element that does not satisfy `P`. -/
theorem exists_not_of_mapM_eq_error (hf : ∀ x y, f x = .ok y ↔ P x ∧ y = g x) {xs : List α} {e : ε}
    (h : xs.mapM f = .error e) : ∃ x ∈ xs, ¬ P x := by
  obtain ⟨pre, x, post, rfl, -, hx⟩ := (mapM_eq_error_iff_first hf).mp h
  refine ⟨x, by simp, fun hp => ?_⟩
  rw [(hf x (g x)).mpr ⟨hp, rfl⟩] at hx
  cases hx

end MapM

/-! ## Arguments -/

/-- The direction word of an `argument` element: the trimmed text of its
`direction` child in lower case. -/
def directionWord (g : Node) : String := lowerText (g.childText "direction")

/-- An `argument` element names a direction: "in" or "out", in any case. -/
def NamesDirection (g : Node) : Prop := directionWord g = "in" ∨ directionWord g = "out"

/-- The argument an `argument` element that names a direction describes. -/
def argumentOf (g : Node) : Argument :=
  { name := g.childText "name", direction := if directionWord g = "in" then .input else .output,
    relatedStateVariable := g.childText "relatedStateVariable" }

/-- The failure of an argument of action `action` that names no direction: it
names the action and the argument and quotes the direction's text. -/
def directionFailure (action : String) (g : Node) : Failure :=
  { kind := .parse, tag := "direction", action, argument := g.childText "name",
    cause := some (.text ("unknown argument direction " ++ quote (g.childText "direction"))) }

/-- The direction read from an argument's `direction` child, whose text is
trimmed already. -/
theorem ofText_childText (g : Node) :
    Direction.ofText (g.childText "direction") =
      if directionWord g = "in" then .ok .input
      else if directionWord g = "out" then .ok .output
      else .error ("unknown argument direction " ++ quote (g.childText "direction")) := by
  have htrim : trimBlank (g.childText "direction") = g.childText "direction" := by
    unfold Node.childText
    cases g.child? "direction" with
    | none => rfl
    | some c => exact trimBlank_trimBlank _
  unfold Direction.ofText directionWord
  rw [htrim]
  split <;> simp_all

theorem readArgument_eq_ok_iff {action : String} {g : Node} {arg : Argument} :
    readArgument action g = .ok arg ↔ NamesDirection g ∧ arg = argumentOf g := by
  unfold readArgument NamesDirection argumentOf
  rw [ofText_childText]
  by_cases hin : directionWord g = "in"
  · simp [hin, eq_comm]
  · by_cases hout : directionWord g = "out" <;> simp [hin, hout, eq_comm]

theorem readArgument_eq_error_iff {action : String} {g : Node} {e : Failure} :
    readArgument action g = .error e ↔ ¬ NamesDirection g ∧ e = directionFailure action g := by
  unfold readArgument NamesDirection directionFailure
  rw [ofText_childText]
  by_cases hin : directionWord g = "in"
  · simp [hin]
  · by_cases hout : directionWord g = "out" <;> simp [hin, hout, eq_comm]

/-! ## Actions -/

/-- An `action` element can be read: it has a name, and each of its arguments
names a direction. -/
def ActionReadable (a : Node) : Prop :=
  a.childText "name" ≠ "" ∧ ∀ g ∈ a.select ["argumentList", "argument"], NamesDirection g

/-- The action a readable `action` element describes, its arguments in
document order. -/
def actionOf (a : Node) : Action :=
  { name := a.childText "name", arguments := (a.select ["argumentList", "argument"]).map argumentOf }

/-- Reading an `action` element fails with `e`: it has no name, or its first
argument that names no direction fails with `e`. -/
def ActionFails (a : Node) (e : Failure) : Prop :=
  (a.childText "name" = "" ∧ e = { kind := .parse, tag := "action", message := "action without a name" }) ∨
  (a.childText "name" ≠ "" ∧ ∃ pre g post, a.select ["argumentList", "argument"] = pre ++ g :: post ∧
    (∀ h ∈ pre, NamesDirection h) ∧ ¬ NamesDirection g ∧ e = directionFailure (a.childText "name") g)

theorem readAction_eq_ok_iff {a : Node} {act : Action} :
    readAction a = .ok act ↔ ActionReadable a ∧ act = actionOf a := by
  unfold readAction ActionReadable actionOf
  by_cases hname : a.childText "name" = ""
  · simp [hname, throw, throwThe, MonadExceptOf.throw, bind, Except.bind]
  · cases hargs : (a.select ["argumentList", "argument"]).mapM (readArgument (a.childText "name")) with
    | error e =>
      -- some argument names no direction
      obtain ⟨g, hmem, hg⟩ := exists_not_of_mapM_eq_error (fun _ _ => readArgument_eq_ok_iff) hargs
      simp [hname, hargs, bind, Except.bind]
      exact fun hall _ => hg (hall g hmem)
    | ok args =>
      obtain ⟨hall, rfl⟩ := (mapM_eq_ok_iff_map fun _ _ => readArgument_eq_ok_iff).mp hargs
      simp [hname, hargs, bind, Except.bind, pure, Except.pure, @eq_comm _ _ act]
      exact fun _ => hall

theorem readAction_eq_error_iff {a : Node} {e : Failure} : readAction a = .error e ↔ ActionFails a e := by
  unfold readAction ActionFails
  -- the first argument naming no direction is where reading the arguments fails
  simp only [← readArgument_eq_error_iff, ← mapM_eq_error_iff_first fun _ _ => readArgument_eq_ok_iff]
  by_cases hname : a.childText "name" = ""
  · simp [hname, throw, throwThe, MonadExceptOf.throw, bind, Except.bind, @eq_comm _ e]
  · cases (a.select ["argumentList", "argument"]).mapM (readArgument (a.childText "name")) <;>
      simp [hname, bind, Except.bind, pure, Except.pure]

/-! ## Reading a service description -/

/-- Reading a text gives a service description exactly when the text is a
document whose first `scpd` element has an accepted specification version and
readable actions; the description then lists the actions, their arguments and
the state variables in document order. Reading fails exactly when the document
cannot be read or has no `scpd` element, or else at the first fault in
document order: a numeric field of the specification version that is not
accepted, then, action by action, the action's fault. -/
theorem read_fails_at_first_fault_or_lists_in_order (text : String) :
    (∀ d, ServiceDescription.read text = .ok d ↔
      ∃ doc root, Document.read text = .ok doc ∧ (doc.roots "scpd").head? = some root ∧
        (∀ p ∈ specFields (root.child? "specVersion"), p.Accepted) ∧
        (∀ a ∈ root.select ["actionList", "action"], ActionReadable a) ∧
        d = { name := root.qname, specVersion := specVersionOf (root.child? "specVersion"),
              actions := (root.select ["actionList", "action"]).map actionOf,
              stateVariables := (root.select ["serviceStateTable", "stateVariable"]).map readStateVariable }) ∧
    (∀ e, ServiceDescription.read text = .error e ↔
      (∃ err, Document.read text = .error err ∧
        e = { kind := .parse, tag := "scpd", cause := some (.text err.message) }) ∨
      (∃ doc, Document.read text = .ok doc ∧ (doc.roots "scpd").head? = none ∧
        e = { kind := .parse, tag := "scpd", message := "missing <scpd> element" }) ∨
      (∃ doc root, Document.read text = .ok doc ∧ (doc.roots "scpd").head? = some root ∧
        ((∃ pre p post, specFields (root.child? "specVersion") = pre ++ p :: post ∧ (∀ q ∈ pre, q.Accepted) ∧
            p.text ≠ "" ∧ ∃ err, readInt64 p.text = .error err ∧ e = p.failure err) ∨
          ((∀ p ∈ specFields (root.child? "specVersion"), p.Accepted) ∧
            ∃ pre a post, root.select ["actionList", "action"] = pre ++ a :: post ∧
              (∀ b ∈ pre, ActionReadable b) ∧ ActionFails a e)))) := by
  -- the conditions say which failure the specification version keeps, and
  -- where reading the actions fails
  simp only [← NumericField.failure?_eq_some_iff]
  simp only [← NumericField.head?_failures_eq_some_iff]
  simp only [← NumericField.head?_failures_eq_none_iff]
  simp only [← readAction_eq_error_iff, ← mapM_eq_error_iff_first fun _ _ => readAction_eq_ok_iff]
  unfold ServiceDescription.read
  cases hdoc : Document.read text with
  | error err =>
    simp only [bind, Except.bind, throw, throwThe, MonadExceptOf.throw]
    refine ⟨fun d => ?_, fun e => ?_⟩
    · simp
    · simp [@eq_comm _ e]
  | ok doc =>
    simp only [bind, Except.bind, pure, Except.pure, throw, throwThe, MonadExceptOf.throw]
    cases hroot : (doc.roots "scpd").head? with
    | none =>
      refine ⟨fun d => ?_, fun e => ?_⟩
      · simp [hroot]
      · simp [hroot, -List.head?_eq_none_iff, @eq_comm _ e]
    | some root =>
      simp only [(readSpecVersion_reads (root.child? "specVersion")).run_none]
      cases hfirst : (NumericField.failures (specFields (root.child? "specVersion"))).head? with
      | some f =>
        refine ⟨fun d => ?_, fun e => ?_⟩
        · simp [hroot, hfirst, -List.head?_eq_none_iff]
        · simp [hroot, hfirst, -List.head?_eq_none_iff, @eq_comm _ f]
      | none =>
        -- past the specification version, reading the actions decides
        cases hacts : (root.select ["actionList", "action"]).mapM readAction with
        | error f =>
          obtain ⟨a, hmem, ha⟩ := exists_not_of_mapM_eq_error (fun _ _ => readAction_eq_ok_iff) hacts
          refine ⟨fun d => ?_, fun e => ?_⟩
          · simp [hroot, hfirst, -List.head?_eq_none_iff]
            exact fun hall => absurd (hall a hmem) ha
          · simp [hroot, hfirst, hacts, -List.head?_eq_none_iff, @eq_comm _ f]
        | ok acts =>
          obtain ⟨hall, rfl⟩ := (mapM_eq_ok_iff_map fun _ _ => readAction_eq_ok_iff).mp hacts
          refine ⟨fun d => ?_, fun e => ?_⟩
          · simp [hroot, hfirst, -List.head?_eq_none_iff, @eq_comm _ _ d]
            exact fun _ => hall
          · simp [hroot, hfirst, hacts, -List.head?_eq_none_iff]

end UpnpBind.Description
