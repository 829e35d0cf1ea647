import UpnpBind.Model.NameSet
import UpnpBind.DataType

/-!
# The binding model

Bindings are generated from a model of each service: a service unit holds the
service's addresses, its normalized name and, per action, the request
parameters (the arguments that go in) and the response fields (those that come
out), each typed by its related state variable. Units of one or more device
trees gather in an output set under a common namespace prefix, together with
every raw action name seen; finalizing the set (see `UpnpBind.Layout`) fills in
the module names and manifests.
-/

namespace UpnpBind.Model

/-- A request parameter or response field of an action. -/
structure Field where
  /-- The argument name as it appears on the wire. -/
  rawName : String
  /-- The normalized argument name. -/
  name : String
  type : ValueType
  /-- The default value of the related state variable, for documentation. -/
  default : String := ""
  /-- The allowed values of the related state variable, for documentation. -/
  allowedValues : List String := []
deriving Repr, DecidableEq, Inhabited

/-- The model of one action of a service. -/
structure ActionModel where
  /-- The raw action name. -/
  name : String
  responseTypeName : String
  requestFunctionName : String
  /-- The arguments that go in, in document order. -/
  parameters : List Field := []
  /-- The arguments that come out, in document order. -/
  responseFields : List Field := []
deriving Repr, DecidableEq, Inhabited

/-- The model of one service of a device tree. -/
structure ServiceUnit where
  serviceType : String := ""
  serviceId : String := ""
  controlUrl : String := ""
  scpdUrl : String := ""
  /-- The normalized service type token. -/
  name : String := ""
  /-- The namespaced module names, set when the output set is finalized. -/
  requestModule : String := ""
  responseModule : String := ""
  /-- The friendly name of the device offering the service. -/
  device : String := ""
  actions : List ActionModel := []
deriving Repr, DecidableEq, Inhabited

/-- The units of one or more device trees generated under a common prefix. -/
structure OutputSet where
  prefix_ : String := ""
  /-- Every raw action name of every service, in first-seen order. -/
  envelopeNames : NameSet := .empty
  units : List ServiceUnit := []
  /-- The fields below are set when the set is finalized. -/
  aliases : List String := []
  sharedModule : String := ""
  requestManifest : List String := []
  responseManifest : List String := []
  finalized : Bool := false
deriving Inhabited

namespace OutputSet

/-- An empty set for a prefix. -/
def new (p : String) : OutputSet := { prefix_ := p }

/-- Adds names to the envelope names. -/
def addNames (o : OutputSet) (names : List String) : OutputSet :=
  { o with envelopeNames := o.envelopeNames.add names }

/-- Appends units in order. -/
def addUnits (o : OutputSet) (us : List ServiceUnit) : OutputSet := { o with units := o.units ++ us }

end OutputSet

end UpnpBind.Model
