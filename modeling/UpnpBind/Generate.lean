import UpnpBind.Walk
import UpnpBind.Config
import UpnpBind.Layout
import UpnpBind.Fetch.Http
import UpnpBind.Sink

/-!
# Generating bindings

A run checks its configuration, then for each root fetches and reads the
root's description and walks its device tree into the output set of the
root's prefix; roots of one prefix share a set, and sets are kept in the order
their prefixes first appear. Each set is then finalized and its artifacts
rendered, set after set. Only when everything has been rendered are the files
written, in the same order, below the output directory; so a failure anywhere
before writing leaves the disk as it was.

A run given no fetcher reads from the snapshot directory when one is set, and
from the device's address otherwise. The errors are reported as they arise,
a description that does not read prefixed by its URL, and a failed walk by
"walking" and the root's description; an invalid configuration fails first.
-/

namespace UpnpBind

open Description Model Render

/-- The device description at a URL. -/
def describe (fetch : Fetch.Fetcher) (url : String) : Logged DeviceDescription := do
  let text ← fetch url
  match DeviceDescription.read text with
  | .ok d =>
    Logged.verbose 1 "generator.go" 125 (url ++ ": " ++ d.device.friendlyName ++ " (" ++
      d.device.modelName ++ "), firmware " ++ d.systemVersion.display)
    pure d
  | .error f => throw (.context url (.failure f))

/-- Puts a walked set in place: over the set of its prefix, or after the others. -/
def placeSet (sets : List OutputSet) (o : OutputSet) : List OutputSet :=
  if sets.any (·.prefix_ == o.prefix_) then sets.map fun s => if s.prefix_ == o.prefix_ then o else s
  else sets ++ [o]

/-- Renders artifacts in order, logging each file. -/
def renderLogged (arts : List Artifact) : Logged (List OutputFile) :=
  arts.mapM fun a =>
    match renderArtifact a with
    | .ok f => do
      Logged.verbose 2 "render.go" 95 ("rendered " ++ f.path ++ " (" ++ a.kind.name ++ ", " ++
        toString f.text.utf8ByteSize ++ " bytes)")
      pure f
    | .error e => throw (.failure e)

/-- The files of one output set: it is finalized, with a warning for each
unit dropped for a module name already taken, then rendered. -/
def renderSet (importPath : String) (o : OutputSet) : Logged (List OutputFile) := do
  o.dropped.forM fun (m, u) =>
    Logged.warning "aggregate.go" 44 (o.prefix_ ++ ": module " ++ m ++ " already generated, dropping service " ++
      u.serviceType ++ " of device " ++ Text.quote u.device)
  let f := o.finalize
  Logged.verbose 1 "generator.go" 105 (f.prefix_ ++ ": " ++ toString f.units.length ++ " service units, " ++
    toString f.aliases.length ++ " action names")
  renderLogged (f.artifacts importPath)

/-- The walker of a configuration. -/
def Config.walker (c : Config) : Walker :=
  { base := c.base, builder := { types := c.resolver, names := c.normalizer }, parallelism := c.parallelism }

/-- Walks one root into the sets. -/
def walkRoot (c : Config) (fetch : Fetch.Fetcher) (cancelled : Bool) (sets : List OutputSet) (r : Root) :
    Logged (List OutputSet) := do
  let root ← describe fetch (c.descriptionUrl r)
  let current := (sets.find? (·.prefix_ == r.prefix_)).getD (OutputSet.new r.prefix_)
  let out ← tryCatch (c.walker.walk fetch (.ofCancelled cancelled) root.device current)
    fun e => throw (.context ("walking " ++ r.description) e)
  pure (placeSet sets out)

/-- The rendered files of every root, set after set. -/
def generate (c : Config) (fetch : Fetch.Fetcher) (cancelled : Bool) : Logged (List OutputFile) := do
  if let some p := c.validate then throw (.context "invalid config" (.plain p))
  let sets ← c.roots.foldlM (walkRoot c fetch cancelled) []
  let files ← sets.mapM (renderSet c.importPath)
  pure files.flatten

/-- The fetcher of a run given none: the snapshot directory when one is set,
else the network. -/
def Config.fetcher (c : Config) (disk : Disk) (transport : Fetch.Transport) (cancelled : Bool) : Fetch.Fetcher :=
  if c.fromDir != "" then Fetch.fromDisk disk c.fromDir cancelled else Fetch.overHttp transport cancelled

/-- The configuration in a file on disk over the defaults; a missing file
means the defaults. -/
def Config.load (disk : Disk) (path : String) : Except String Config :=
  match disk.readFile path with
  | .ok text =>
    match Config.parse text with
    | .ok c => .ok c
    | .error e => .error (path ++ ": " ++ e)
  | .error e => if disk.isMissing path then .ok Config.standard else .error ("read " ++ path ++ ": " ++ e)

/-- Generates and writes the files below the output directory. A failure to
generate writes nothing; a failure to write is returned with the disk as the
writes before it left it. -/
def generateInto (c : Config) (fetch : Fetch.Fetcher) (cancelled : Bool) (disk : Disk) :
    Logged (Disk × Option Failure) := do
  let files ← generate c fetch cancelled
  let (disk, failed) := flush disk c.output files
  if failed.isNone then
    Logged.verbose 1 "sink.go" 34 ("wrote " ++ toString files.length ++ " files")
  pure (disk, failed)

/-- Generates the files and keeps them in memory, where of several files at one
path the last one stays. A failure to generate writes nothing. -/
def generateIntoMemory (c : Config) (fetch : Fetch.Fetcher) (cancelled : Bool) (m : MemorySink) :
    Logged MemorySink := do
  let files ← generate c fetch cancelled
  Logged.verbose 1 "sink.go" 34 ("wrote " ++ toString files.length ++ " files")
  pure (m.flush files)

end UpnpBind
