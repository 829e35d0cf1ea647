import UpnpBind.Template.Value
import UpnpBind.Layout
import UpnpBind.Naming.Identifier
import UpnpBind.Text.Quoted
import UpnpBind.Xml.Namespaces

/-!
# What the templates see

Artifact data is handed to the templates as records whose field names are the
names the templates use: a service package sees `Package`, `Prefix`, `Unit`
and `Shared`; a shared package sees `Package`, `Prefix` and `Aliases`; a
manifest sees `Package`, `Prefix`, `Side` and `Modules`. The record type names
are the ones execution errors report.

The templates may call `goName` and `paramName` (the identifiers of a
normalized name), `goType` (the type of a data type in the generated code),
`quote` (a double-quoted literal), `join` (strings joined by a separator),
`printf` (a formatted text) and `envelopeNamespaces` (the namespace
declarations of a request envelope).
-/

namespace UpnpBind.Render

open UpnpBind.Template UpnpBind.Model

/-- The namespace of SOAP 1.1 envelopes. -/
def envelopeNamespace : String := "http://schemas.xmlsoap.org/soap/envelope/"

/-- The namespace declarations of a request envelope. -/
def envelopeDeclarations : String :=
  (Xml.PrefixMap.ofAttributes [⟨⟨"xmlns", "s"⟩, envelopeNamespace⟩]).declarations

/-- A list of strings as a value. -/
def strings (xs : List String) : Value := .list "string" (xs.map .str)

/-- A data type as a value. -/
def typeValue (t : ValueType) : Value := .named "typemap.Type" t.name (t.code != 0) t.code

/-- A field as a value. -/
def fieldValue (f : Field) : Value :=
  .record "model.Field" [("RawName", .str f.rawName), ("Name", .str f.name), ("Type", typeValue f.type),
    ("Default", .str f.default), ("AllowedValues", strings f.allowedValues)]

/-- An action model as a value. -/
def actionValue (a : ActionModel) : Value :=
  .record "model.ActionModel" [("Name", .str a.name), ("ResponseTypeName", .str a.responseTypeName),
    ("RequestFunctionName", .str a.requestFunctionName),
    ("Parameters", .list "model.Field" (a.parameters.map fieldValue)),
    ("ResponseFields", .list "model.Field" (a.responseFields.map fieldValue))]

/-- A service unit as a value. -/
def unitValue (u : ServiceUnit) : Value :=
  .record "model.ServiceUnit" [("ServiceType", .str u.serviceType), ("ServiceID", .str u.serviceId),
    ("ControlURL", .str u.controlUrl), ("SCPDURL", .str u.scpdUrl), ("Name", .str u.name),
    ("RequestModule", .str u.requestModule), ("ResponseModule", .str u.responseModule),
    ("Device", .str u.device), ("Actions", .list "model.ActionModel" (u.actions.map actionValue))]

/-- An import as a value. -/
def importValue (i : Import) : Value := .record "aggregate.Import" [("Path", .str i.path), ("Name", .str i.name)]

/-- The data of an artifact as a value. -/
def dataValue : ArtifactData → Value
  | .unit pkg p u shared =>
    .record "aggregate.Unit" [("Package", .str pkg), ("Prefix", .str p), ("Unit", unitValue u),
      ("Shared", importValue shared)]
  | .shared pkg p aliases =>
    .record "aggregate.Shared" [("Package", .str pkg), ("Prefix", .str p), ("Aliases", strings aliases)]
  | .manifest pkg p side modules =>
    .record "aggregate.Manifest" [("Package", .str pkg), ("Prefix", .str p), ("Side", .str side),
      ("Modules", .list "aggregate.Import" (modules.map importValue))]

/-! ## Functions -/

/-- The failure of an argument of the wrong type. -/
def wrongType {α : Type} (expected : String) (v : Value) : Except String α :=
  .error ("wrong type for value; expected " ++ expected ++ "; got " ++ v.typeName)

/-- The failure of a call with the wrong number of arguments. -/
def wrongCount {α : Type} (name : String) (want : Nat) (got : List Value) : Except String α :=
  .error ("wrong number of args for " ++ name ++ ": want " ++ toString want ++ " got " ++ toString got.length)

/-- A function of one string. -/
def onString (name : String) (f : String → String) : List Value → Except String Value
  | [.str s] => .ok (.str (f s))
  | [v] => wrongType "string" v
  | vs => wrongCount name 1 vs

/-- The text of a value for a verb of a format: `%s`, `%v` and `%d`. -/
def formatArg (verb : Char) (v : Value) : String :=
  match verb, v with
  | 'd', .int n => toString n
  | 'd', .named _ _ _ n => toString n
  | 'd', v => "%!d(" ++ v.typeName ++ "=" ++ v.text ++ ")"
  | _, v => v.text

/-- A format with its verbs replaced by the texts of the arguments, in order. -/
def formatText : List Char → List Value → List Char
  | '%' :: '%' :: rest, args => '%' :: formatText rest args
  | '%' :: verb :: rest, a :: args => (formatArg verb a).toList ++ formatText rest args
  | '%' :: verb :: rest, [] => "%!".toList ++ [verb] ++ "(MISSING)".toList ++ formatText rest []
  | c :: rest, args => c :: formatText rest args
  | [], [] => []
  | [], extra => "%!(EXTRA ".toList ++ (", ".intercalate (extra.map fun v => v.typeName ++ "=" ++ v.text)).toList ++ [')']

/-- The functions the templates may call. -/
def functions (name : String) : Option (List Value → Except String Value) :=
  match name with
  | "goName" => some (onString "goName" Naming.exportedName)
  | "paramName" => some (onString "paramName" Naming.parameterName)
  | "quote" => some (onString "quote" Text.quote)
  | "goType" => some fun
    | [.named "typemap.Type" _ _ code] => .ok (.str (ValueType.ofCode code).goType)
    | [v] => wrongType "typemap.Type" v
    | vs => wrongCount "goType" 1 vs
  | "join" => some fun
    | [.list "string" items, .str sep] => .ok (.str (sep.intercalate (items.map Value.text)))
    | [.list "string" _, v] => wrongType "string" v
    | [v, _] => wrongType "[]string" v
    | vs => wrongCount "join" 2 vs
  | "printf" => some fun
    | .str fmt :: args => .ok (.str (String.ofList (formatText fmt.toList args)))
    | v :: _ => wrongType "string" v
    | [] => .error "wrong number of args for printf: want at least 1 got 0"
  | "envelopeNamespaces" => some fun
    | [] => .ok (.str envelopeDeclarations)
    | vs => wrongCount "envelopeNamespaces" 0 vs
  | _ => none

end UpnpBind.Render
