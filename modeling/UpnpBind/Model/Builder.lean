import UpnpBind.Model.Unit
import UpnpBind.Description.Scpd
import UpnpBind.Naming.Normalize
import UpnpBind.Naming.Identifier

/-!
# Building the model of a service

Each action of a service description becomes an action model; each of its
arguments is typed through its related state variable. The first argument that
names no state variable, whose variable has a data type the type table does not
map, or that has no direction, fails the whole service.

While a service is built, the raw name of each action is added to an envelope
name set as soon as that action is complete, so a failure leaves the names of
the actions before it. Building a unit builds into a scratch set instead and
adds its names only once every action is complete: a failing service then
contributes no names at all.
-/

namespace UpnpBind.Model

open UpnpBind.Description

/-- How service descriptions become models: a type table for data types and a
normalizer for names. -/
structure Builder where
  types : TypeTable := .standard
  names : Naming.Normalizer := .standard
deriving Inhabited

namespace Builder

/-- The details locating an argument in the device tree. -/
def argumentDetails (svc : Service) (action : Action) (arg : Argument) : List Detail :=
  [.service svc.serviceType, .action action.name, .argument arg.name]

/-- The field of one argument, and whether it goes in. -/
def field (b : Builder) (doc : ServiceDescription) (svc : Service) (action : Action) (arg : Argument) :
    Except Failure (Field × Bool) := do
  let ctx := argumentDetails svc action arg
  let some v := doc.stateVariable? arg.relatedStateVariable
    | throw (Failure.raise .unknownStateVariable arg.relatedStateVariable ctx)
  let type ← match b.types.resolve v.dataType with
    | .ok t => pure t
    | .error _ => throw (Failure.raise .unmappedType v.dataType (ctx ++ [.message ("state variable " ++ v.name)]))
  let f : Field := { rawName := arg.name, name := b.names.normalize arg.name, type,
                     default := v.defaultValue, allowedValues := v.allowedValues }
  match arg.direction with
  | .input => pure (f, true)
  | .output => pure (f, false)
  | .other _ => throw (Failure.raise .parse "direction" ctx)

/-- The model of one action: its fields sorted into parameters and response
fields, each in document order. -/
def action (b : Builder) (doc : ServiceDescription) (svc : Service) (a : Action) : Except Failure ActionModel := do
  let fields ← a.arguments.mapM (b.field doc svc a)
  return { name := a.name, responseTypeName := Naming.responseTypeName a.name,
           requestFunctionName := b.names.normalize a.name,
           parameters := (fields.filter (·.2)).map (·.1),
           responseFields := (fields.filter (!·.2)).map (·.1) }

/-- The models of a list of actions, adding each action's raw name to the
envelope once it is complete; on a failure, the envelope as it was then. -/
def actions (b : Builder) (doc : ServiceDescription) (svc : Service) :
    List Action → NameSet → Except Failure (List ActionModel) × NameSet
  | [], env => (.ok [], env)
  | a :: rest, env =>
    match b.action doc svc a with
    | .error f => (.error f, env)
    | .ok m =>
      let (r, env') := b.actions doc svc rest (env.insert a.name)
      (r.map (m :: ·), env')

/-- The models of every action of a description, in document order, with the
envelope grown by the names of the complete actions. -/
def build (b : Builder) (doc : ServiceDescription) (svc : Service) (env : NameSet) :
    Except Failure (List ActionModel) × NameSet :=
  b.actions doc svc doc.actions env

/-- The models of the actions before the first one that fails, in order: the
actions a build completes, whether or not it succeeds. -/
def completed (b : Builder) (doc : ServiceDescription) (svc : Service) : List Action → List ActionModel
  | [] => []
  | a :: rest =>
    match b.action doc svc a with
    | .ok m => m :: b.completed doc svc rest
    | .error _ => []

/-- The unit of a service, with the names of its actions, in order. -/
def unit (b : Builder) (doc : ServiceDescription) (svc : Service) : Except Failure (ServiceUnit × NameSet) := do
  let token ← svc.token
  match b.build doc svc .empty with
  | (.error f, _) => throw f
  | (.ok actions, names) =>
    return ({ serviceType := svc.serviceType, serviceId := svc.serviceId, controlUrl := svc.controlUrl,
              scpdUrl := svc.scpdUrl, name := b.names.normalize token, actions }, names)

/-- The unit of a service, with the envelope grown by all its action names;
on a failure the envelope is left as it is. -/
def buildUnit (b : Builder) (doc : ServiceDescription) (svc : Service) (env : NameSet) :
    Except Failure (ServiceUnit × NameSet) := do
  let (u, names) ← b.unit doc svc
  return (u, env.add names.names)

end Builder

end UpnpBind.Model
