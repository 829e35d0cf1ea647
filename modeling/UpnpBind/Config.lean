import UpnpBind.Yaml.Decode
import UpnpBind.Web.Url
import UpnpBind.Naming.Rule
import UpnpBind.Naming.Identifier
import UpnpBind.DataType
import UpnpBind.Text.Letter

/-!
# Run configuration

A run reads from a device's address (or from a directory snapshot of it),
generates the bindings of one or more root descriptions, each under a
namespace prefix, and writes them below an output directory, which is known
to the generated code by its import path. Extra acronym rules apply before the standard ones, and extra
data type entries extend the standard type table.

The configuration is YAML over the defaults: the FRITZ!Box address
`http://fritz.box:49000`, output and import path `output`, one fetch at a
time, a 30 second timeout, and the TR-064 (`tr64desc.xml`, prefix `tr064`)
and IGD (`igddesc.xml`, prefix `igd`) descriptions. A YAML error is reported
as "parsing config: " and the decoder's message.

Validation reports the first invalid setting, in a fixed order: the address
(unless reading from a directory), the output directory, the parallelism, the
timeout, the roots, and the acronym table.
-/

namespace UpnpBind

open Yaml

/-- A description to generate bindings for, and the namespace prefix of its modules. -/
structure Root where
  description : String
  prefix_ : String
deriving Repr, DecidableEq, Inhabited

/-- A root as `description=prefix`. -/
def Root.text (r : Root) : String := r.description ++ "=" ++ r.prefix_

/-- The run configuration. -/
structure Config where
  address : String
  output : String
  importPath : String
  fromDir : String
  parallelism : Int
  /-- The fetch timeout in nanoseconds. -/
  timeout : Int
  roots : List Root
  acronyms : List Naming.Rule
  dataTypes : List (String × ValueType)
deriving Repr, DecidableEq, Inhabited

namespace Config

/-- The default configuration: both descriptions of a FRITZ!Box, fetched one at a time. -/
def standard : Config where
  address := "http://fritz.box:49000"
  output := "output"
  importPath := "output"
  fromDir := ""
  parallelism := 1
  timeout := 30000000000
  roots := [⟨"tr64desc.xml", "tr064"⟩, ⟨"igddesc.xml", "igd"⟩]
  acronyms := []
  dataTypes := []

/-- A value type read from its name; any other text is "unknown value". -/
def valueTypeShape : Shape ValueType :=
  .leaf "typemap.Type" (fun s => match ValueType.ofName? s with
    | some t => .ok t
    | none => .error "unknown value") .boolean

/-- The shape of an acronym rule. -/
def ruleShape : Shape ValueType :=
  .record "naming.Rule" [("pattern", .text), ("replacement", .text)]

/-- The shape of a root. -/
def rootShape : Shape ValueType :=
  .record "config.Root" [("description", .text), ("prefix", .text)]

/-- The shape of a configuration file. -/
def shape : Shape ValueType :=
  .record "config.Config"
    [("address", .text), ("output", .text), ("import_path", .text), ("from_dir", .text),
     ("parallelism", .integer), ("timeout", .duration), ("roots", .list rootShape),
     ("acronyms", .list ruleShape), ("data_types", .table valueTypeShape)]

/-- A list as a decoded value; an empty one is none. -/
def listValue {β : Type} (f : β → Value ValueType) (xs : List β) : Value ValueType :=
  if xs.isEmpty then .none else .list (xs.map f)

/-- A configuration as a decoded value. -/
def toValue (c : Config) : Value ValueType :=
  .record
    [("address", .text c.address), ("output", .text c.output), ("import_path", .text c.importPath),
     ("from_dir", .text c.fromDir), ("parallelism", .integer c.parallelism),
     ("timeout", .duration c.timeout),
     ("roots", listValue (fun r => .record [("description", .text r.description), ("prefix", .text r.prefix_)]) c.roots),
     ("acronyms", listValue (fun r => .record [("pattern", .text r.pattern), ("replacement", .text r.replacement)]) c.acronyms),
     ("data_types", if c.dataTypes.isEmpty then .none else .table (c.dataTypes.map fun (k, t) => (k, .leaf t)))]

/-- The text of a field of a decoded record. -/
def textField (fields : List (String × Value ValueType)) (name : String) : String :=
  match fields.lookup name with
  | some (.text s) => s
  | _ => ""

/-- The items of a decoded list. -/
def items (v : Option (Value ValueType)) : List (Value ValueType) :=
  match v with
  | some (.list xs) => xs
  | _ => []

/-- The fields of a decoded record. -/
def fieldsOf (v : Value ValueType) : List (String × Value ValueType) :=
  match v with
  | .record fs => fs
  | _ => []

/-- A configuration from a decoded value, with the defaults for what it lacks. -/
def ofValue (v : Value ValueType) : Config :=
  let fs := fieldsOf v
  { address := textField fs "address"
    output := textField fs "output"
    importPath := textField fs "import_path"
    fromDir := textField fs "from_dir"
    parallelism := match fs.lookup "parallelism" with
      | some (.integer i) => i
      | _ => 0
    timeout := match fs.lookup "timeout" with
      | some (.duration d) => d
      | _ => 0
    roots := (items (fs.lookup "roots")).map fun r =>
      ⟨textField (fieldsOf r) "description", textField (fieldsOf r) "prefix"⟩
    acronyms := (items (fs.lookup "acronyms")).map fun r =>
      ⟨textField (fieldsOf r) "pattern", textField (fieldsOf r) "replacement"⟩
    dataTypes := match fs.lookup "data_types" with
      | some (.table es) => es.filterMap fun (k, t) =>
        match t with
        | .leaf t => some (k, t)
        | _ => none
      | _ => [] }

/-- The configuration a YAML text sets over the defaults. -/
def parse (text : String) : Except String Config :=
  match Yaml.decode text shape standard.toValue with
  | .ok v => .ok (ofValue v)
  | .error e => .error ("parsing config: " ++ e)

/-- Whether a text is an identifier of the generated language: a letter or
underscore, then letters, digits and underscores, and no keyword. -/
def isIdentifier (s : String) : Bool :=
  match s.toList with
  | [] => false
  | c :: cs =>
    !Naming.keywords.contains s && (Text.isLetter c || c == '_') &&
      cs.all fun c => Text.isLetter c || c == '_' || Text.isDecimalDigit c

/-- The identifier normalizer with the configured acronyms ahead of the standard ones. -/
def normalizer (c : Config) : Naming.Normalizer := Naming.Normalizer.standard.withAcronyms c.acronyms

/-- The type table with the configured data types over the standard ones. -/
def resolver (c : Config) : TypeTable := TypeTable.standard.overlay c.dataTypes

/-- The address without trailing slashes. -/
def base (c : Config) : String := String.ofList ((c.address.toList.reverse.dropWhile (· == '/')).reverse)

/-- The URL of a root's description document. -/
def descriptionUrl (c : Config) (r : Root) : String :=
  c.base ++ "/" ++ String.ofList (r.description.toList.dropWhile (· == '/'))

/-- The first problem of the roots, by index. -/
def rootProblem : Nat → List Root → Option String
  | _, [] => none
  | i, r :: rest =>
    if Text.trimBlank r.description == "" then some ("root " ++ toString i ++ ": no description")
    else if r.prefix_ != "" && !isIdentifier r.prefix_ then
      some ("root " ++ toString i ++ ": prefix " ++ Text.quote r.prefix_ ++ " is not an identifier")
    else rootProblem (i + 1) rest

/-- The first invalid setting, if any. -/
def validate (c : Config) : Option String :=
  let addressProblem :=
    if c.fromDir != "" then none
    else match Web.Url.parse c.address with
      | .error e => some ("address: " ++ e)
      | .ok u =>
        if (u.scheme != "http" && u.scheme != "https") || u.host == "" then
          some ("address " ++ Text.quote c.address ++ " is not an absolute http(s) URL")
        else none
  match addressProblem with
  | some p => some p
  | none =>
    if c.output == "" then some "output directory not set"
    else if c.parallelism < 1 then some ("parallelism " ++ toString c.parallelism ++ " below 1")
    else if c.timeout ≤ 0 then some ("timeout " ++ Text.durationText c.timeout ++ " not positive")
    else if c.roots.isEmpty then some "no roots"
    else match rootProblem 0 c.roots with
      | some p => some p
      | none => c.normalizer.conflict.map fun k => "acronyms: " ++ k.message

end Config

end UpnpBind
