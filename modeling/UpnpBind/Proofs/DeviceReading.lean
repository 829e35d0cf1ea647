import UpnpBind.Description.Device
import UpnpBind.Proofs.DecimalIntegers

/-!
# Reading device descriptions

Reading a device description goes on past a numeric field that is no integer
and remembers only the first such failure. A reading is described by the value
it gives and the failures it notes, in order (`Tally.Reads`): run after an
earlier failure it keeps that one, and run with none it keeps the first of its
own. Readings compose: a bind notes the failures of its first part, then those
of the rest, and a list read element by element notes each element's in turn.

The numeric fields of a description (`numberFields`) are, in reading order,
the major and minor specification version, the five system version numbers,
and the width, height and depth of every icon of the device tree, in preorder
with a device's icons before its sub-devices. A field is accepted when its text
is empty and read as 0, or spells in decimal the signed 64-bit integer it is
read as; any other text fails the field, with a failure that names it and
quotes its text.

`read_mirrors_device_tree_or_fails_at_first_bad_number`: reading a text gives a
description exactly when the text is a document with a `root` element holding
a `device` element and every numeric field is accepted; the description then
mirrors the document (`descriptionOf`, with the device tree `deviceOf`). It
fails exactly when the document cannot be read, has no root or no device, or
with the failure of the first numeric field that is not accepted.
-/

namespace UpnpBind.Description

open UpnpBind.Xml UpnpBind.Text

/-! ## Readings that keep the first failure -/

namespace Tally

variable {α β : Type}

/-- The reading `m` gives `v` and notes the failures `fs`, in order: run after
a first failure it keeps that one, and otherwise the first of `fs`, if any. -/
def Reads (m : Tally α) (v : α) (fs : List Failure) : Prop :=
  ∀ first, m.run first = (v, first.or fs.head?)

theorem reads_pure (a : α) : Reads (pure a) a [] := fun first => by
  cases first <;> rfl

theorem Reads.bind {m : Tally α} {f : α → Tally β} {a : α} {b : β} {fs gs : List Failure}
    (hm : m.Reads a fs) (hf : (f a).Reads b gs) : (m >>= f).Reads b (fs ++ gs) := fun first => by
  show (f (m.run first).1).run (m.run first).2 = _
  rw [hm first, hf, Option.or_assoc, List.head?_append]

/-- A reading that ends by giving a value made of its first part's. -/
theorem Reads.bind_pure {m : Tally α} {k : α → β} {a : α} {fs : List Failure} (hm : m.Reads a fs) :
    (m >>= fun x => pure (k x)).Reads (k a) fs := fun first => by
  show (pure (k (m.run first).1) : Tally β).run (m.run first).2 = _
  rw [hm first]
  rfl

theorem reads_note (f : Failure) : Reads (note f) () [f] := fun first => by
  cases first <;> rfl

/-- Reading a list element by element gives the elements' values and notes
their failures, element after element. -/
theorem reads_mapM {f : α → Tally β} {g : α → β} {h : α → List Failure} :
    ∀ {xs : List α}, (∀ x ∈ xs, (f x).Reads (g x) (h x)) → (xs.mapM f).Reads (xs.map g) (xs.flatMap h)
  | [], _ => by simpa using reads_pure ([] : List β)
  | x :: xs, hf => by
    rw [List.mapM_cons, List.map_cons, List.flatMap_cons]
    have hrest := reads_mapM fun y hy => hf y (List.mem_cons_of_mem x hy)
    exact (hf x (List.mem_cons_self ..)).bind (hrest.bind_pure (k := fun ys => g x :: ys))

/-- A reading run with no earlier failure keeps the first failure it notes. -/
theorem Reads.run_none {m : Tally α} {v : α} {fs : List Failure} (hm : m.Reads v fs) :
    m.run none = (v, fs.head?) := by
  rw [hm none, Option.none_or]

end Tally

/-! ## Numeric fields -/

/-- A numeric field: the element it is read from and the local name of the
child element whose text holds the number. -/
structure NumericField where
  node : Node
  name : String

namespace NumericField

/-- The trimmed text of the field's child; empty when there is none. -/
def text (p : NumericField) : String := p.node.childText p.name

/-- The integer a field is read as: its text's decimal integer, or 0. -/
def value (p : NumericField) : Int :=
  match readInt64 p.text with
  | .ok v => v
  | .error _ => 0

/-- The failure a field whose text is no integer is reported with: it names the
field, quotes its text and gives the conversion's error as the cause. -/
def failure (p : NumericField) (err : NumberError) : Failure :=
  { kind := .parse, tag := p.name, message := "invalid integer value " ++ quote p.text,
    cause := some (.text (err.message p.text)) }

/-- The failure a field is noted with, if any. -/
def failure? (p : NumericField) : Option Failure :=
  if p.text.isEmpty then none
  else
    match readInt64 p.text with
    | .ok _ => none
    | .error err => some (p.failure err)

/-- A field is accepted when its text is empty and it is read as 0, or its text
spells in decimal the signed 64-bit integer it is read as. -/
def Accepted (p : NumericField) : Prop :=
  (p.text = "" ∧ p.value = 0) ∨ (SpellsDecimal p.text p.value ∧ -2 ^ 63 ≤ p.value ∧ p.value < 2 ^ 63)

theorem failure?_eq_none_iff {p : NumericField} : p.failure? = none ↔ p.Accepted := by
  rw [Accepted, ← readInt64_eq_ok_iff]
  unfold failure? value
  by_cases hempty : p.text = ""
  · -- the empty text is no integer, so it is read as 0
    have hread : readInt64 "" = .error .invalidSyntax := rfl
    simp [hempty, hread]
  · cases hread : readInt64 p.text <;> simp [hempty]

theorem failure?_eq_some_iff {p : NumericField} {e : Failure} :
    p.failure? = some e ↔ p.text ≠ "" ∧ ∃ err, readInt64 p.text = .error err ∧ e = p.failure err := by
  unfold failure?
  by_cases hempty : p.text = ""
  · simp [hempty]
  · cases hread : readInt64 p.text with
    | ok v => simp [hempty]
    | error err => simp [hempty, @eq_comm _ e]

/-- The failures a list of fields is noted with, in order. -/
def failures (ps : List NumericField) : List Failure := ps.flatMap fun p => p.failure?.toList

/-- The first failure of a list of fields is that of its first field that is
not accepted. -/
theorem head?_failures_eq_some_iff {ps : List NumericField} {e : Failure} :
    (failures ps).head? = some e ↔
      ∃ pre p post, ps = pre ++ p :: post ∧ (∀ q ∈ pre, q.Accepted) ∧ p.failure? = some e := by
  induction ps with
  | nil => simp [failures]
  | cons p ps ih =>
    rw [failures, List.flatMap_cons, List.head?_append, Option.head?_toList, ← failures]
    cases hp : p.failure? with
    | some f =>
      -- the head is the first field that fails
      rw [Option.some_or, Option.some_inj]
      constructor
      · rintro rfl
        exact ⟨[], p, ps, rfl, by simp, hp⟩
      · rintro ⟨pre, q, post, hps, hpre, hq⟩
        cases pre with
        | nil =>
          obtain ⟨rfl, -⟩ := List.cons.inj hps
          exact Option.some_inj.mp (hp.symm.trans hq)
        | cons r pre =>
          have hr : r.Accepted := hpre r (List.mem_cons_self ..)
          obtain ⟨rfl, -⟩ := List.cons.inj hps
          rw [failure?_eq_none_iff.mpr hr] at hp
          cases hp
    | none =>
      rw [Option.none_or, ih]
      constructor
      · rintro ⟨pre, q, post, rfl, hpre, hq⟩
        refine ⟨p :: pre, q, post, rfl, ?_, hq⟩
        exact List.forall_mem_cons.mpr ⟨failure?_eq_none_iff.mp hp, hpre⟩
      · rintro ⟨pre, q, post, hps, hpre, hq⟩
        cases pre with
        | nil =>
          obtain ⟨rfl, -⟩ := List.cons.inj hps
          rw [hp] at hq
          cases hq
        | cons r pre =>
          obtain ⟨-, rfl⟩ := List.cons.inj hps
          exact ⟨pre, q, post, rfl, fun q' hq' => hpre q' (List.mem_cons_of_mem _ hq'), hq⟩

theorem head?_failures_eq_none_iff {ps : List NumericField} :
    (failures ps).head? = none ↔ ∀ p ∈ ps, p.Accepted := by
  simp [failures, failure?_eq_none_iff]

end NumericField

/-- Reading the number in child `name` of `n` gives the field's value and
notes its failure, if any. -/
theorem readInt_reads (n : Node) (name : String) :
    (readInt n name).Reads (NumericField.value ⟨n, name⟩) (NumericField.failure? ⟨n, name⟩).toList := by
  unfold readInt NumericField.value NumericField.failure?
  simp only [NumericField.text]
  by_cases hempty : (n.childText name).isEmpty
  · -- the empty text is no integer, so it is read as 0 without a note
    have hread : readInt64 "" = .error .invalidSyntax := rfl
    simp only [String.isEmpty_iff.mp hempty, hread]
    exact Tally.reads_pure 0
  · simp only [hempty, Bool.false_eq_true, if_false]
    cases readInt64 (n.childText name) with
    | ok v => exact Tally.reads_pure v
    | error err => exact (Tally.reads_note _).bind_pure

/-! ## The fields and values of a description -/

/-- The numeric fields of an icon. -/
def iconFields (n : Node) : List NumericField := [⟨n, "width"⟩, ⟨n, "height"⟩, ⟨n, "depth"⟩]

/-- The icon an `icon` element describes. -/
def iconOf (n : Node) : Icon :=
  { mimetype := n.childText "mimetype", width := NumericField.value ⟨n, "width"⟩,
    height := NumericField.value ⟨n, "height"⟩, depth := NumericField.value ⟨n, "depth"⟩,
    url := n.childText "url" }

/-- The numeric fields of a device tree: a device's icons' fields, then those
of its sub-devices, each in document order. -/
def deviceFields (n : Node) : List NumericField :=
  (n.select ["iconList", "icon"]).flatMap iconFields ++
    (n.select ["deviceList", "device"]).attach.flatMap fun d => deviceFields d.1
termination_by n
decreasing_by exact sizeOf_lt_of_mem_select d.2

/-- The device tree a `device` element describes: each text field the trimmed
text of the first child of its name, and its icons, services and sub-devices
those of its lists, in document order. -/
def deviceOf (n : Node) : Device :=
  { deviceType := n.childText "deviceType", friendlyName := n.childText "friendlyName",
    manufacturer := n.childText "manufacturer", manufacturerUrl := n.childText "manufacturerURL",
    modelDescription := n.childText "modelDescription", modelName := n.childText "modelName",
    modelNumber := n.childText "modelNumber", modelUrl := n.childText "modelURL",
    udn := n.childText "UDN", upc := n.childText "UPC",
    presentationUrl := n.childText "presentationURL",
    icons := (n.select ["iconList", "icon"]).map iconOf,
    services := (n.select ["serviceList", "service"]).map readService,
    devices := (n.select ["deviceList", "device"]).attach.map fun d => deviceOf d.1 }
termination_by n
decreasing_by exact sizeOf_lt_of_mem_select d.2

/-- The numeric fields of an optional `specVersion` element. -/
def specFields : Option Node → List NumericField
  | none => []
  | some n => [⟨n, "major"⟩, ⟨n, "minor"⟩]

/-- The specification version an optional `specVersion` element describes. -/
def specVersionOf : Option Node → SpecVersion
  | none => {}
  | some n => { major := NumericField.value ⟨n, "major"⟩, minor := NumericField.value ⟨n, "minor"⟩ }

/-- The numeric fields of an optional `systemVersion` element. -/
def systemFields : Option Node → List NumericField
  | none => []
  | some n => [⟨n, "HW"⟩, ⟨n, "Major"⟩, ⟨n, "Minor"⟩, ⟨n, "Patch"⟩, ⟨n, "Buildnumber"⟩]

/-- The system version an optional `systemVersion` element describes. -/
def systemVersionOf : Option Node → SystemVersion
  | none => {}
  | some n =>
    { hw := NumericField.value ⟨n, "HW"⟩, major := NumericField.value ⟨n, "Major"⟩,
      minor := NumericField.value ⟨n, "Minor"⟩, patch := NumericField.value ⟨n, "Patch"⟩,
      buildnumber := NumericField.value ⟨n, "Buildnumber"⟩, display := n.childText "Display" }

/-- The numeric fields of a description with root element `root` and device
element `dev`, in reading order. -/
def numberFields (root dev : Node) : List NumericField :=
  specFields (root.child? "specVersion") ++ systemFields (root.child? "systemVersion") ++ deviceFields dev

/-- The description of root element `root` with device element `dev`. -/
def descriptionOf (root dev : Node) : DeviceDescription :=
  { name := root.qname, specVersion := specVersionOf (root.child? "specVersion"),
    systemVersion := systemVersionOf (root.child? "systemVersion"), device := deviceOf dev }

/-! ## Readings of the parts -/

section Readings

open NumericField

theorem readSpecVersion_reads (sv : Option Node) :
    (readSpecVersion sv).Reads (specVersionOf sv) (failures (specFields sv)) := by
  cases sv with
  | none => exact Tally.reads_pure _
  | some n =>
    simp only [readSpecVersion, specVersionOf, specFields, failures, List.flatMap_cons, List.flatMap_nil,
      List.append_nil]
    exact (readInt_reads n "major").bind (readInt_reads n "minor").bind_pure

theorem readSystemVersion_reads (n : Node) :
    (readSystemVersion n).Reads (systemVersionOf (some n)) (failures (systemFields (some n))) := by
  simp only [readSystemVersion, systemVersionOf, systemFields, failures, List.flatMap_cons, List.flatMap_nil,
    List.append_nil]
  exact (readInt_reads n "HW").bind <| (readInt_reads n "Major").bind <| (readInt_reads n "Minor").bind <|
    (readInt_reads n "Patch").bind (readInt_reads n "Buildnumber").bind_pure

theorem readIcon_reads (n : Node) : (readIcon n).Reads (iconOf n) (failures (iconFields n)) := by
  simp only [readIcon, iconOf, iconFields, failures, List.flatMap_cons, List.flatMap_nil, List.append_nil]
  exact (readInt_reads n "width").bind <| (readInt_reads n "height").bind (readInt_reads n "depth").bind_pure

/-- Reading a device tree gives the tree the element describes and notes the
failures of its numeric fields, a device's icons before its sub-devices. The
recursion follows the reading's, into each sub-device. -/
theorem readDevice_reads (n : Node) : (readDevice n).Reads (deviceOf n) (failures (deviceFields n)) := by
  rw [readDevice, deviceOf, deviceFields, failures, List.flatMap_append, List.flatMap_assoc,
    List.flatMap_assoc]
  refine (Tally.reads_mapM fun i _ => readIcon_reads i).bind ?_
  exact (Tally.reads_mapM fun d _ => readDevice_reads d.1).bind_pure
termination_by n
decreasing_by exact sizeOf_lt_of_mem_select d.2

/-- Reading a description's parts gives the description the document
describes and notes the failures of its numeric fields in reading order. -/
theorem reading_reads (root dev : Node) :
    (DeviceDescription.reading root dev).Reads (descriptionOf root dev) (failures (numberFields root dev)) := by
  rw [DeviceDescription.reading, descriptionOf, numberFields, failures, List.flatMap_append,
    List.flatMap_append, List.append_assoc]
  refine (readSpecVersion_reads _).bind ?_
  cases root.child? "systemVersion" with
  | none => exact (Tally.reads_pure _).bind (readDevice_reads dev).bind_pure
  | some sv => exact (readSystemVersion_reads sv).bind (readDevice_reads dev).bind_pure

end Readings

/-! ## Reading a description -/

/-- Reading a text gives a description exactly when the text is a document
whose first `root` element has a `device` element and every numeric field is
accepted; the description is then the one the document describes. Reading
fails exactly when the document cannot be read, when it has no root or the
root no device, or else with the failure of the first numeric field in
reading order that is not accepted, although reading went on past it. -/
theorem read_mirrors_device_tree_or_fails_at_first_bad_number (text : String) :
    (∀ d, DeviceDescription.read text = .ok d ↔
      ∃ doc root dev, Document.read text = .ok doc ∧ (doc.roots "root").head? = some root ∧
        (root.select ["device"]).head? = some dev ∧ (∀ p ∈ numberFields root dev, p.Accepted) ∧
        d = descriptionOf root dev) ∧
    (∀ e, DeviceDescription.read text = .error e ↔
      (∃ err, Document.read text = .error err ∧
        e = { kind := .parse, tag := "root", cause := some (.text err.message) }) ∨
      (∃ doc, Document.read text = .ok doc ∧ (doc.roots "root").head? = none ∧
        e = { kind := .parse, tag := "root", message := "missing <root> element" }) ∨
      (∃ doc root, Document.read text = .ok doc ∧ (doc.roots "root").head? = some root ∧
        (root.select ["device"]).head? = none ∧
        e = { kind := .parse, tag := "root", message := "missing <device> element" }) ∨
      (∃ doc root dev, Document.read text = .ok doc ∧ (doc.roots "root").head? = some root ∧
        (root.select ["device"]).head? = some dev ∧
        ∃ pre p post, numberFields root dev = pre ++ p :: post ∧ (∀ q ∈ pre, q.Accepted) ∧
          p.text ≠ "" ∧ ∃ err, readInt64 p.text = .error err ∧ e = p.failure err)) := by
  -- the conditions on the fields say which first failure the reading keeps, if any
  simp only [← NumericField.failure?_eq_some_iff]
  simp only [← NumericField.head?_failures_eq_some_iff]
  simp only [← NumericField.head?_failures_eq_none_iff]
  unfold DeviceDescription.read
  cases hdoc : Document.read text with
  | error err =>
    simp only [bind, Except.bind, throw, throwThe, MonadExceptOf.throw]
    refine ⟨fun d => ?_, fun e => ?_⟩
    · simp
    · simp [@eq_comm _ e]
  | ok doc =>
    simp only [bind, Except.bind, pure, Except.pure, throw, throwThe, MonadExceptOf.throw]
    cases hroot : (doc.roots "root").head? with
    | none =>
      refine ⟨fun d => ?_, fun e => ?_⟩
      · simp [hroot]
      · simp [hroot, -List.head?_eq_none_iff, @eq_comm _ e]
    | some root =>
      cases hdev : (root.select ["device"]).head? with
      | none =>
        refine ⟨fun d => ?_, fun e => ?_⟩
        · simp [hroot, hdev]
        · simp [hroot, hdev, -List.head?_eq_none_iff, @eq_comm _ e]
      | some dev =>
        -- past the device element, the first failure the reading keeps decides
        simp only [hdev, (reading_reads root dev).run_none]
        cases hfirst : (NumericField.failures (numberFields root dev)).head? with
        | none => simp [hroot, hdev, hfirst, -List.head?_eq_none_iff, @eq_comm _ (descriptionOf root dev)]
        | some f => simp [hroot, hdev, hfirst, -List.head?_eq_none_iff, @eq_comm _ f]

end UpnpBind.Description
