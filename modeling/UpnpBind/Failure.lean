import UpnpBind.Text.JsonText

/-!
# Failures of the generator

A failure names its kind (fetching, parsing, an unknown state variable, an
unmapped data type, rendering, writing), the offending raw value, where in the
device tree it happened, a message and an underlying cause. Its text lists the
set fields in a fixed order; its JSON form lists them in the same order and
leaves out the empty ones. The errors the program reports are failures or
plain texts, each possibly wrapped in context labels.
-/

namespace UpnpBind

/-- The kind of a failure, by code 0 to 5; other codes name an unnamed kind. -/
inductive ErrorKind where
  | fetch
  | parse
  | unknownStateVariable
  | unmappedType
  | render
  | write
  /-- An unnamed kind; `ErrorKind.ofCode` builds it only for codes outside 0 to 5. -/
  | other (code : Int)
deriving Repr, DecidableEq, Inhabited

namespace ErrorKind

/-- The six named kinds, in code order. -/
def named : List ErrorKind := [.fetch, .parse, .unknownStateVariable, .unmappedType, .render, .write]

/-- The code of a kind. -/
def code : ErrorKind → Int
  | .fetch => 0
  | .parse => 1
  | .unknownStateVariable => 2
  | .unmappedType => 3
  | .render => 4
  | .write => 5
  | .other n => n

/-- The kind of a code. -/
def ofCode (n : Int) : ErrorKind :=
  match named.find? (·.code == n) with
  | some k => k
  | none => .other n

/-- The name of a kind, or `Kind(n)` for an unnamed one. -/
def name : ErrorKind → String
  | .fetch => "fetch"
  | .parse => "parse"
  | .unknownStateVariable => "unknown-state-variable"
  | .unmappedType => "unmapped-type"
  | .render => "render"
  | .write => "write"
  | .other n => "Kind(" ++ toString n ++ ")"

/-- Reads the name of a named kind; the text is compared exactly. -/
def ofName? (s : String) : Option ErrorKind := named.find? (·.name == s)

end ErrorKind

/-- The underlying cause of a failure. -/
inductive Cause where
  /-- An error of a lower layer, by its text. -/
  | text (message : String)
  /-- Generated source at `path` that the source formatter rejected with `error`. -/
  | source (path : String) (source : String) (error : String)
deriving Repr, DecidableEq, Inhabited

/-- The text of a cause. -/
def Cause.message : Cause → String
  | .text m => m
  | .source path _ e => "formatting " ++ path ++ ": " ++ e

/-- A failure of the generator. -/
structure Failure where
  kind : ErrorKind
  /-- The offending raw value: a data type, a state variable, a document or template name. -/
  tag : String := ""
  service : String := ""
  action : String := ""
  argument : String := ""
  url : String := ""
  path : String := ""
  message : String := ""
  cause : Option Cause := none
deriving Repr, DecidableEq, Inhabited

/-- One detail set on a failure when it is raised. -/
inductive Detail where
  | message (s : String)
  | service (s : String)
  | action (s : String)
  | argument (s : String)
  | url (s : String)
  | path (s : String)
  | cause (c : Cause)
deriving Repr, DecidableEq

namespace Failure

/-- Sets one detail. -/
def withDetail (f : Failure) : Detail → Failure
  | .message s => { f with message := s }
  | .service s => { f with service := s }
  | .action s => { f with action := s }
  | .argument s => { f with argument := s }
  | .url s => { f with url := s }
  | .path s => { f with path := s }
  | .cause c => { f with cause := some c }

/-- A failure of a kind about `subject`, with details set in order. A fetch
failure is about a URL and a write failure about a path, and these win over
a detail of the same field; every other kind takes the subject as its tag. -/
def raise (kind : ErrorKind) (subject : String) (details : List Detail) : Failure :=
  let f := details.foldl withDetail { kind }
  match kind with
  | .fetch => { f with url := subject }
  | .write => { f with path := subject }
  | _ => { f with tag := subject }

/-- A labelled field of the text, present only when not empty. -/
def labelled (label value : String) : String :=
  if value.isEmpty then "" else " " ++ label ++ value

/-- The text of a failure: kind, then the set fields, then the cause. -/
def text (f : Failure) : String :=
  f.kind.name ++ " error" ++ labelled "tag:" f.tag ++ labelled "service:" f.service ++
    labelled "action:" f.action ++ labelled "argument:" f.argument ++ labelled "url:" f.url ++
    labelled "path:" f.path ++ labelled "" f.message ++
    (match f.cause with
     | some c => ": " ++ c.message
     | none => "")

/-- The JSON form of a failure: kind first, then the fields that are set. -/
def json (f : Failure) : String :=
  let field (key value : String) : List String :=
    if value.isEmpty then [] else [Text.jsonString key ++ ":" ++ Text.jsonString value]
  let fields := [Text.jsonString "kind" ++ ":" ++ Text.jsonString f.kind.name] ++
    field "tag" f.tag ++ field "service" f.service ++ field "action" f.action ++
    field "argument" f.argument ++ field "url" f.url ++ field "path" f.path ++
    field "message" f.message
  "\x7b" ++ ",".intercalate fields ++ "\x7d"

end Failure

/-- An error the program reports: a failure, a plain text, or either inside a
context label. -/
inductive Error where
  | failure (f : Failure)
  | plain (message : String)
  | context (label : String) (inner : Error)
deriving Repr, DecidableEq, Inhabited

namespace Error

/-- The full text: each context label, then the text of the innermost error. -/
def message : Error → String
  | .failure f => f.text
  | .plain m => m
  | .context label e => label ++ ": " ++ e.message

/-- The failure inside, if any. -/
def failure? : Error → Option Failure
  | .failure f => some f
  | .plain _ => none
  | .context _ e => e.failure?

/-- The kind name reported for the error: the failure's kind, else "error". -/
def kindName (e : Error) : String :=
  match e.failure? with
  | some f => f.kind.name
  | none => "error"

/-- Whether the error holds a failure of kind `k`. -/
def isKind (e : Error) (k : ErrorKind) : Bool :=
  match e.failure? with
  | some f => f.kind == k
  | none => false

/-- The rejected generated source inside, as its path and text. -/
def rejectedSource? (e : Error) : Option (String × String) :=
  match e.failure? with
  | some { cause := some (.source path src _), .. } => some (path, src)
  | _ => none

end Error

end UpnpBind
