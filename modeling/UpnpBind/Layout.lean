import UpnpBind.Model.Unit
import UpnpBind.Text.SlashPath

/-!
# Modules and artifacts

An output set is generated as two sides of Go packages, requests and
responses, each in a directory named for the set's prefix. Every unit becomes
one module per side, named for its prefix and its name; when two units share a
module name, the first in visiting order is kept. Each side also has a shared
module (the response envelope or the request helper) and a manifest listing
the side's modules in sorted order.

Finalizing a set assigns the module names, drops the colliding units and
builds the aliases and manifests; finalizing it again changes nothing. The
artifacts of a finalized set are the files to render: each unit's response and
request package, then the shared packages, then the two manifests.
-/

namespace UpnpBind

open UpnpBind.Model

/-- The module name of `name` in the namespace `p`: the name itself under the
empty prefix, else the prefix, an underscore and the name. -/
def moduleName (p name : String) : String := if p.isEmpty then name else p ++ "_" ++ name

/-- The name of the module every service module of a set shares. -/
def sharedName : String := "multi_use"

/-- The side directory names. -/
def requestsSide : String := "requests"
def responsesSide : String := "responses"

/-- The directory of one side of the set for a prefix. -/
def sideDir (p side : String) : String := moduleName p side

/-- The units to keep: the first of each module name, with its module names
set, skipping any whose module is already taken; also the modules kept. -/
def keepUnits (p : String) : List String → List ServiceUnit → List ServiceUnit × List String
  | _, [] => ([], [])
  | seen, u :: us =>
    let m := moduleName p u.name
    if seen.contains m then keepUnits p seen us
    else
      let (kept, modules) := keepUnits p (m :: seen) us
      ({ u with requestModule := m, responseModule := m } :: kept, m :: modules)

/-- The units `keepUnits` skips, each with the module name already taken. -/
def droppedUnits (p : String) : List String → List ServiceUnit → List (String × ServiceUnit)
  | _, [] => []
  | seen, u :: us =>
    let m := moduleName p u.name
    if seen.contains m then (m, u) :: droppedUnits p seen us
    else droppedUnits p (m :: seen) us

/-- Sorts names lexically. -/
def sortNames (xs : List String) : List String := xs.mergeSort (fun a b => decide (a ≤ b))

namespace Model.OutputSet

/-- The finalized set: module names assigned, colliding units dropped, the
envelope names sorted into aliases and both manifests built. A finalized set
is returned as it is. -/
def finalize (o : OutputSet) : OutputSet :=
  if o.finalized then o
  else
    let shared := moduleName o.prefix_ sharedName
    let (units, modules) := keepUnits o.prefix_ [shared] o.units
    let manifest := sortNames (shared :: modules)
    { o with sharedModule := shared, aliases := o.envelopeNames.sorted, units,
             requestManifest := manifest, responseManifest := manifest, finalized := true }

/-- The units finalizing drops, each with the module name they collide on;
none for a finalized set. -/
def dropped (o : OutputSet) : List (String × ServiceUnit) :=
  if o.finalized then [] else droppedUnits o.prefix_ [moduleName o.prefix_ sharedName] o.units

end Model.OutputSet

/-- What an artifact is, naming the template it is rendered with. -/
inductive ArtifactKind where
  | responseTypes
  | requestFunctions
  | sharedEnvelope
  | sharedRequest
  | moduleManifest
  /-- A kind of no template; `ArtifactKind.ofCode` builds it only for codes outside 0 to 4. -/
  | other (code : Int)
deriving Repr, DecidableEq, Inhabited

namespace ArtifactKind

/-- The five kinds in code order. -/
def named : List ArtifactKind := [.responseTypes, .requestFunctions, .sharedEnvelope, .sharedRequest, .moduleManifest]

/-- The code of a kind. -/
def code : ArtifactKind → Int
  | .responseTypes => 0
  | .requestFunctions => 1
  | .sharedEnvelope => 2
  | .sharedRequest => 3
  | .moduleManifest => 4
  | .other n => n

/-- The kind of a code. -/
def ofCode (n : Int) : ArtifactKind :=
  match named.find? (·.code == n) with
  | some k => k
  | none => .other n

/-- The template name of a kind; "unknown" for codes outside 0 to 4. -/
def name : ArtifactKind → String
  | .responseTypes => "response-types"
  | .requestFunctions => "request-functions"
  | .sharedEnvelope => "shared-envelope"
  | .sharedRequest => "shared-request"
  | .moduleManifest => "module-manifest"
  | .other _ => "unknown"

end ArtifactKind

/-- An imported package: its import path and name. -/
structure Import where
  path : String := ""
  name : String := ""
deriving Repr, DecidableEq, Inhabited

/-- The data an artifact is rendered from. -/
inductive ArtifactData where
  /-- A service package: its package name, the prefix, the unit, and the
  request helper package that request functions use. -/
  | unit (package prefix_ : String) (u : ServiceUnit) (shared : Import)
  /-- A shared package, with the aliases of the response envelope. -/
  | shared (package prefix_ : String) (aliases : List String)
  /-- The manifest of one side. -/
  | manifest (package prefix_ side : String) (modules : List Import)
deriving Repr, Inhabited

/-- One file to render: its kind, its slash-separated path below the output
directory, and its data. -/
structure Artifact where
  kind : ArtifactKind
  path : String
  data : ArtifactData
deriving Repr, Inhabited

namespace Model.OutputSet

/-- The manifest artifact of one side. -/
def manifestArtifact (importPath p side : String) (modules : List String) : Artifact :=
  let dir := sideDir p side
  { kind := .moduleManifest, path := Text.joinPath [dir, "doc.go"],
    data := .manifest dir p side (modules.map fun m => ⟨Text.joinPath [importPath, dir, m], m⟩) }

/-- The artifacts of the finalized set for an output directory with the import
path `importPath`: the response and request package of each unit in order,
then the shared envelope and request packages, then the response and request
manifests. -/
def artifacts (o : OutputSet) (importPath : String) : List Artifact :=
  let o := o.finalize
  let reqDir := sideDir o.prefix_ requestsSide
  let respDir := sideDir o.prefix_ responsesSide
  let file (dir m : String) : String := Text.joinPath [dir, m, m ++ ".go"]
  let shared : Import := ⟨Text.joinPath [importPath, reqDir, o.sharedModule], o.sharedModule⟩
  o.units.flatMap (fun u =>
    [{ kind := .responseTypes, path := file respDir u.responseModule,
       data := .unit u.responseModule o.prefix_ u {} },
     { kind := .requestFunctions, path := file reqDir u.requestModule,
       data := .unit u.requestModule o.prefix_ u shared }]) ++
  [{ kind := .sharedEnvelope, path := file respDir o.sharedModule,
     data := .shared o.sharedModule o.prefix_ o.aliases },
   { kind := .sharedRequest, path := file reqDir o.sharedModule,
     data := .shared o.sharedModule o.prefix_ [] },
   manifestArtifact importPath o.prefix_ responsesSide o.responseManifest,
   manifestArtifact importPath o.prefix_ requestsSide o.requestManifest]

end Model.OutputSet

end UpnpBind
