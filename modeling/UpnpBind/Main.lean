import UpnpBind.Cli.Run

/-!
# The command

The program behind the command line. The command's work is `Cli.execute`,
which runs on a disk: this layer gives it the part of the real disk the run
looks at, and afterwards makes the run's writes on the real disk.

The run is repeated until the disk it was given agrees with the real one at
every place the run looked: the configuration file, a snapshot document it
found missing, and each directory and file it created. Each repetition adds
what the real disk holds at one more place, so the repetitions end. The
network is taken to be out of reach.
-/

namespace UpnpBind.Program

open Cli

/-- The name the usage text gives the program. -/
def programName : String := "scpdgen"

/-- The system's code for "is a directory". -/
def isDirectoryCode : UInt32 := 21

/-- The system's code of an input or output error, when it has one. -/
def osCode : IO.Error → Option UInt32
  | .alreadyExists _ c _ | .otherError c _ | .resourceBusy c _ | .resourceVanished c _
  | .unsupportedOperation c _ | .hardwareFault c _ | .unsatisfiedConstraints c _
  | .illegalOperation c _ | .protocolError c _ | .timeExpired c _ | .interrupted _ c _
  | .noFileOrDirectory _ c _ | .invalidArgument _ c _ | .permissionDenied _ c _
  | .resourceExhausted _ c _ | .inappropriateType _ c _ | .noSuchThing _ c _ => some c
  | .unexpectedEof | .userError _ => none

/-- What the real disk holds at a path: a file's text, a directory (none), or
nothing at all. -/
def probe (p : String) : IO (Option (Option String)) := do
  try
    return some (some (← IO.FS.readFile p))
  catch e =>
    return if osCode e == some isDirectoryCode then some none else none

/-- The places a run looked at: its configuration file, the file of a
snapshot document it could not read, and what it created. -/
def places (args : List String) (before : Disk) (o : Outcome) : List String :=
  let config := match parseFlags {} args with
    | .settings s _ => [s.configPath]
    | _ => []
  let missing := match o.failure.bind Error.failure? with
    | some f => if f.kind == .fetch && !f.path.isEmpty then [f.path] else []
    | none => []
  let created := o.disk.dirs.filter (!before.dirs.contains ·)
  let written := (o.disk.files.filter fun (p, _) => (before.files.lookup p).isNone).map (·.1)
  config ++ missing ++ created ++ written

/-- Runs the command until the disk it is given agrees with the real one at
every place it looks; that disk and the run's outcome. -/
partial def settle (args : List String) (disk : Disk) (probed : List String) : IO (Disk × Outcome) := do
  let o := execute programName args disk Fetch.Transport.unreachable
  let fresh := (places args disk o).filter (!probed.contains ·)
  let mut d := disk
  let mut changed := false
  for p in fresh do
    match ← probe p with
    | some (some text) =>
      d := d.putFile p text
      changed := true
    | some none =>
      d := d.putDirectory p
      changed := true
    | none => pure ()
  if changed then settle args d (probed ++ fresh) else return (disk, o)

/-- Makes on the real disk the directories and files a run created or changed. -/
def apply (before after : Disk) : IO Unit := do
  for dir in after.dirs do
    if !before.dirs.contains dir then IO.FS.createDirAll dir
  for (p, text) in after.files do
    if before.files.lookup p != some text then IO.FS.writeFile p text

end UpnpBind.Program

open UpnpBind in
/-- Runs the command with the program's arguments. -/
def main (args : List String) : IO UInt32 := do
  let (before, o) ← Program.settle args {} []
  try
    Program.apply before o.disk
  catch e =>
    IO.eprintln (toString e)
    return 1
  IO.print o.stdout
  (← IO.getStderr).putStr o.stderr
  return o.exit.toUInt32
