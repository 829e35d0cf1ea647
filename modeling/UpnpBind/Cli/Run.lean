import UpnpBind.Cli.Flags
import UpnpBind.Generate
import UpnpBind.Text.Glob

/-!
# Running the command

The command reads its flags, loads the configuration file they name (a
missing file means the defaults), lets the flags given override it, and
generates the bindings into the output directory. It exits with 0 when all
went well; with 2 after a refused flag, having printed the message and the
usage text; with 0 after printing the usage text on request; and with 1 after
any other failure, which it logs as an error. Arguments after the flags are
ignored. On a failure to format generated source, `-keep-broken` writes the
unformatted source where the file would have gone, under its name with
`.broken` appended.

Everything the command prints goes to standard error: the flag messages and
the usage text, and the log lines that reach it, each as its severity letter,
its source site and its text. A verbose line is written when the verbosity,
or the level `-vmodule` gives the line's source file, reaches its level.
-/

namespace UpnpBind.Cli

open Text

/-- The level the first matching log filter gives a source file, matched by
its name without the `.go` ending. -/
def LogOptions.moduleLevel (o : LogOptions) (file : String) : Option Nat :=
  let base := if file.endsWith ".go" then String.ofList (file.toList.take (file.length - 3)) else file
  (o.modules.find? fun (p, _) => globMatch p base).map (·.2)

/-- Whether a log line is written at all. -/
def LogOptions.writes (o : LogOptions) (l : LogLine) : Bool :=
  l.level == 0 || decide (o.verbosity ≥ l.level) ||
    match o.moduleLevel l.file with
    | some n => n ≥ l.level
    | none => false

/-- Whether a log line reaches standard error. -/
def LogOptions.shows (o : LogOptions) (l : LogLine) : Bool :=
  o.writes l && (o.toStderr || o.alsoToStderr || l.severity.rank ≥ o.threshold)

/-- A log line as standard error shows it: severity letter, site, text, and a
line break unless the text ends with one. -/
def LogLine.rendered (l : LogLine) : String :=
  String.singleton l.severity.letter ++ " " ++ l.file ++ ":" ++ toString l.line ++ "] " ++ l.text ++
    (if l.text.endsWith "\n" then "" else "\n")

/-- The configuration with the settings of the flags given over it. -/
def Settings.over (s : Settings) (c : Config) : Config :=
  let c := if s.given.contains "address" then { c with address := s.address } else c
  let c := if s.given.contains "output" then { c with output := s.output } else c
  let c := if s.given.contains "import-path" then { c with importPath := s.importPath } else c
  let c := if s.given.contains "parallelism" then { c with parallelism := s.parallelism } else c
  let c := if s.given.contains "from-dir" then { c with fromDir := s.fromDir } else c
  if s.given.contains "root" then { c with roots := s.roots } else c

/-- A list of roots as the log shows it. -/
def rootsText (rs : List Root) : String := "[" ++ " ".intercalate (rs.map Root.text) ++ "]"

/-- Writes the unformatted source of a formatting failure below a directory,
next to where its file would have been written; a failure to do so is only
a warning. -/
def keepBroken (disk : Disk) (dir : String) (e : Error) : Logged Disk :=
  match e.rejectedSource? with
  | none => pure disk
  | some (path, source) =>
    let full := joinPath [dir, path] ++ ".broken"
    match disk.mkdirAll (Disk.dirName full) with
    | .error err => do
      Logged.warning "main.go" 120 ("keeping broken source: " ++ err)
      pure disk
    | .ok d =>
      match d.writeFile full source with
      | .error err => do
        Logged.warning "main.go" 124 ("keeping broken source: " ++ err)
        pure d
      | .ok d => do
        Logged.log { file := "main.go", line := 127, text := "unformatted source written to " ++ full }
        pure d

/-- Loads the configuration, generates and writes the files; the disk after
it and the error that stopped it, if any. -/
def generateWith (s : Settings) (disk : Disk) (transport : Fetch.Transport) : Logged (Disk × Option Error) :=
  match Config.load disk s.configPath with
  | .error e => pure (disk, some (.plain e))
  | .ok c => do
    let c := s.over c
    Logged.verbose 1 "main.go" 107 ("config: address " ++ c.address ++ ", output " ++ c.output ++
      ", roots " ++ rootsText c.roots)
    let (d, failure) ← tryCatch ((generateInto c (c.fetcher disk transport false) false disk).map
        fun (d, f) => (d, f.map Error.failure))
      fun e => pure (disk, some e)
    match failure with
    | none => pure (d, none)
    | some e =>
      let d ← if s.keepBroken then keepBroken d c.output e else pure d
      pure (d, some e)

/-- What a run of the command leaves: its exit status, what it printed, the
disk, and the error that stopped it, if any. -/
structure Outcome where
  exit : Nat
  stdout : String
  stderr : String
  disk : Disk
  failure : Option Error := none
deriving Repr, Inhabited

/-- Runs the command under a name with its arguments. -/
def execute (program : String) (args : List String) (disk : Disk) (transport : Fetch.Transport) : Outcome :=
  match parseFlags {} args with
  | .help => ⟨0, "", usageText program, disk, none⟩
  | .failed message => ⟨2, "", message ++ "\n" ++ usageText program, disk, none⟩
  | .settings s _ =>
    let run : Logged (Disk × Option Error) := do
      let (d, failure) ← generateWith s disk transport
      if let some e := failure then
        Logged.log { severity := .error, file := "main.go", line := 78, text := e.message }
      pure (d, failure)
    let (result, lines) := run.run
    let stderr := String.join ((lines.toList.filter s.logs.shows).map LogLine.rendered)
    match result with
    | .ok (d, none) => ⟨0, "", stderr, d, none⟩
    | .ok (d, some e) => ⟨1, "", stderr, d, some e⟩
    | .error e =>
      ⟨1, "", stderr ++ (LogLine.rendered { severity := .error, file := "main.go", line := 78, text := e.message }),
        disk, some e⟩

end UpnpBind.Cli
