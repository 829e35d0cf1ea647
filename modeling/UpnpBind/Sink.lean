import UpnpBind.Disk
import UpnpBind.Failure
import UpnpBind.Render.Artifact

/-!
# Writing generated files

A generated file is written below an output directory at its slash-separated
path: its directory is created with its parents, then the file written. A
failure of either step is a write failure about the full path, with the
system's message as its cause. Writing a list of files goes in order and
stops at the first failure, leaving the files written before it.

Files can also be kept in memory by path. Writing a path that is there already
replaces its text, so of several files at one path the last one written stays;
the paths are listed in sorted order.
-/

namespace UpnpBind

open Render

/-- Writes one file below a directory; on a failure, the disk as it was then. -/
def writeBelow (disk : Disk) (dir path text : String) : Disk × Option Failure :=
  let full := Text.joinPath [dir, path]
  let failed (e : String) : Failure := Failure.raise .write full [.cause (.text e)]
  match disk.mkdirAll (Disk.dirName full) with
  | .error e => (disk, some (failed e))
  | .ok d =>
    match d.writeFile full text with
    | .error e => (d, some (failed e))
    | .ok d => (d, none)

/-- Writes files below a directory in order, stopping at the first failure. -/
def flush (disk : Disk) (dir : String) : List OutputFile → Disk × Option Failure
  | [] => (disk, none)
  | f :: fs =>
    match writeBelow disk dir f.path f.text with
    | (d, none) => flush d dir fs
    | (d, some e) => (d, some e)

/-- Files kept in memory: each path with the text last written to it, in the
order the paths were first written. -/
structure MemorySink where
  files : List (String × String) := []
deriving Repr, DecidableEq, Inhabited

namespace MemorySink

/-- Writes a file; a path already there gets the new text in place. -/
def write (m : MemorySink) (path text : String) : MemorySink :=
  if m.files.any (·.1 == path) then ⟨m.files.map fun f => if f.1 == path then (path, text) else f⟩
  else ⟨m.files ++ [(path, text)]⟩

/-- The text last written to a path. -/
def get? (m : MemorySink) (path : String) : Option String := m.files.lookup path

/-- The paths written, in sorted order. -/
def paths (m : MemorySink) : List String := (m.files.map (·.1)).mergeSort fun a b => decide (a ≤ b)

/-- Writes files in order; writing to memory never fails. -/
def flush (m : MemorySink) (files : List OutputFile) : MemorySink :=
  files.foldl (fun m f => m.write f.path f.text) m

end MemorySink

end UpnpBind
