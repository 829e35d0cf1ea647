import UpnpBind.Description.Device
import UpnpBind.Text.Case

/-!
# Service descriptions

A service description lists the service's actions, each with arguments that
go in or out and name a related state variable, and its state table, whose
variables carry a data type, a default value, allowed values and an allowed
range. Reading fails at the first fault in document order: a bad specification
version number, then, action by action, a missing action name before a bad
argument direction.
-/

namespace UpnpBind.Description

open UpnpBind.Xml

/-- The direction of an argument: 0 in, 1 out; other codes name no direction. -/
inductive Direction where
  | input
  | output
  /-- An unnamed direction; `Direction.ofCode` builds it only for codes other than 0 and 1. -/
  | other (code : Int)
deriving Repr, DecidableEq, Inhabited

namespace Direction

/-- The direction of a code. -/
def ofCode (n : Int) : Direction := if n = 0 then .input else if n = 1 then .output else .other n

/-- The code of a direction. -/
def code : Direction → Int
  | .input => 0
  | .output => 1
  | .other n => n

/-- The name of a direction: "in", "out" or `Direction(n)`. -/
def name : Direction → String
  | .input => "in"
  | .output => "out"
  | .other n => "Direction(" ++ toString n ++ ")"

/-- Reads "in" or "out", ignoring case and the blanks at both ends. -/
def ofText (s : String) : Except String Direction :=
  match Text.lowerText (Text.trimBlank s) with
  | "in" => .ok .input
  | "out" => .ok .output
  | _ => .error ("unknown argument direction " ++ Text.quote s)

end Direction

/-- An argument of an action. Its type is given by its related state variable. -/
structure Argument where
  name : String
  direction : Direction
  relatedStateVariable : String
deriving Repr, DecidableEq, Inhabited

/-- An action of a service. -/
structure Action where
  name : String
  arguments : List Argument := []
deriving Repr, DecidableEq, Inhabited

/-- The range a numeric state variable is bounded by. -/
structure ValueRange where
  minimum : String
  maximum : String
  step : String
deriving Repr, DecidableEq, Inhabited

/-- An entry of the service state table. -/
structure StateVariable where
  name : String
  dataType : String
  defaultValue : String := ""
  sendEvents : Bool := false
  allowedValues : List String := []
  allowedRange : Option ValueRange := none
deriving Repr, DecidableEq, Inhabited

/-- A service description document. -/
structure ServiceDescription where
  name : QName := {}
  specVersion : SpecVersion := {}
  actions : List Action := []
  stateVariables : List StateVariable := []
deriving Repr, DecidableEq, Inhabited

/-- The first state variable of this name. -/
def ServiceDescription.stateVariable? (d : ServiceDescription) (name : String) : Option StateVariable :=
  d.stateVariables.find? (·.name == name)

/-- An argument of an `argument` element of action `action`. -/
def readArgument (action : String) (n : Node) : Except Failure Argument :=
  let name := n.childText "name"
  match Direction.ofText (n.childText "direction") with
  | .ok dir => .ok { name, direction := dir, relatedStateVariable := n.childText "relatedStateVariable" }
  | .error m => .error { kind := .parse, tag := "direction", action, argument := name, cause := some (.text m) }

/-- An action of an `action` element. -/
def readAction (n : Node) : Except Failure Action := do
  let name := n.childText "name"
  if name.isEmpty then throw { kind := .parse, tag := "action", message := "action without a name" }
  let arguments ← (n.select ["argumentList", "argument"]).mapM (readArgument name)
  return { name, arguments }

/-- A state variable of a `stateVariable` element. -/
def readStateVariable (n : Node) : StateVariable :=
  { name := n.childText "name", dataType := n.childText "dataType",
    defaultValue := n.childText "defaultValue",
    sendEvents := Text.equalFold (Text.trimBlank (n.attr "sendEvents")) "yes",
    allowedValues := (n.select ["allowedValueList", "allowedValue"]).map (Text.trimBlank ·.innerText),
    allowedRange := (n.child? "allowedValueRange").map fun r =>
      { minimum := r.childText "minimum", maximum := r.childText "maximum", step := r.childText "step" } }

/-- Reads a service description. -/
def ServiceDescription.read (text : String) : Except Failure ServiceDescription := do
  let doc ← match Document.read text with
    | .ok d => pure d
    | .error e => throw { kind := .parse, tag := "scpd", cause := some (.text e.message) }
  let some root := (doc.roots "scpd").head?
    | throw { kind := .parse, tag := "scpd", message := "missing <scpd> element" }
  let (specVersion, firstFailure) := (readSpecVersion (root.child? "specVersion")).run none
  if let some f := firstFailure then throw f
  let actions ← (root.select ["actionList", "action"]).mapM readAction
  let stateVariables := (root.select ["serviceStateTable", "stateVariable"]).map readStateVariable
  return { name := root.qname, specVersion, actions, stateVariables }

end UpnpBind.Description
