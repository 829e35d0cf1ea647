import UpnpBind.Config
import UpnpBind.Log
import UpnpBind.Text.Integer

/-!
# Command line flags

The command takes flags of four kinds: texts, integers, booleans and flags
with a value of their own syntax (roots, log verbosity, log filters, the
stderr threshold, backtrace locations). Flags are read from the front of the
arguments: `-name value`, `-name=value`, or with two dashes; a boolean flag
takes no separate value (`-name` sets it, `-name=false` clears it). Reading
stops at the first argument that is not a flag, at a lone `-`, and after `--`.

A flag that is not defined, a flag without its value, or a value its flag
refuses stops the command with a message and the usage text; `-h` and
`-help` ask for the usage text alone. The usage text lists every flag by name
with the kind of its value, its description, and its default when that is not
the zero value of its kind.

The log flags decide which log lines are written (the verbosity, and per
source file by `-vmodule`) and which of them reach standard error: all of
them with `-logtostderr` or `-alsologtostderr`, else those at or above the
threshold, errors by default.
-/

namespace UpnpBind.Cli

open Text

/-- The kind of a flag's value. -/
inductive FlagKind where
  | text
  | integer
  | boolean
  /-- A value with its own syntax. -/
  | custom
deriving Repr, DecidableEq, Inhabited

/-- A flag: its name, kind, description and default, as the usage text shows them. -/
structure FlagSpec where
  name : String
  kind : FlagKind
  usage : String
  /-- The default as text; none when it is the zero value of the kind. -/
  shownDefault : Option String := none
deriving Repr, DecidableEq, Inhabited

/-- The flags of the command, by name. -/
def flagSpecs : List FlagSpec :=
  [⟨"address", .text, "base address of the device, e.g. http://fritz.box:49000", none⟩,
   ⟨"alsologtostderr", .boolean, "log to standard error as well as files", none⟩,
   ⟨"config", .text, "YAML configuration file; missing means defaults", some (quote "scpdgen.yaml")⟩,
   ⟨"from-dir", .text, "read documents from a directory snapshot instead of the device", none⟩,
   ⟨"import-path", .text, "Go import path of the output directory", none⟩,
   ⟨"keep-broken", .boolean, "on a formatting failure, write the unformatted source to <path>.broken", none⟩,
   ⟨"log_backtrace_at", .custom, "when logging hits line file:N, emit a stack trace", none⟩,
   ⟨"log_dir", .text, "If non-empty, write log files in this directory", none⟩,
   ⟨"log_link", .text, "If non-empty, add symbolic links in this directory to the log files", none⟩,
   ⟨"logbuflevel", .integer, "Buffer log messages logged at this level or lower (-1 means don't buffer; 0 means buffer INFO only; ...). Has limited applicability on non-prod platforms.", none⟩,
   ⟨"logtostderr", .boolean, "log to standard error instead of files", none⟩,
   ⟨"output", .text, "output directory", none⟩,
   ⟨"parallelism", .integer, "number of services fetched at once", none⟩,
   ⟨"root", .custom, "description document and module prefix, desc=prefix (repeatable)", none⟩,
   ⟨"stderrthreshold", .custom, "logs at or above this threshold go to stderr", some "2"⟩,
   ⟨"v", .custom, "log level for V logs", none⟩,
   ⟨"vmodule", .custom, "comma-separated list of pattern=N settings for file-filtered logging", none⟩]

/-- The word the usage text shows for a kind of value. -/
def FlagKind.word : FlagKind → String
  | .text => "string"
  | .integer => "int"
  | .boolean => ""
  | .custom => "value"

/-- The usage lines of one flag. -/
def FlagSpec.usageLines (f : FlagSpec) : String :=
  let head := "  -" ++ f.name ++ (if f.kind.word.isEmpty then "" else " " ++ f.kind.word)
  let sep := if head.length ≤ 4 then "\t" else "\n    \t"
  let dflt := match f.shownDefault with
    | some d => " (default " ++ d ++ ")"
    | none => ""
  head ++ sep ++ replaceAll f.usage "\n" "\n    \t" ++ dflt ++ "\n"

/-- The usage text of the command run under a name. -/
def usageText (program : String) : String :=
  "Usage of " ++ program ++ ":\n" ++ String.join (flagSpecs.map (·.usageLines))

/-- Which log lines are written, and which reach standard error. -/
structure LogOptions where
  verbosity : Int := 0
  /-- File name patterns with the verbosity they give their files, first match first. -/
  modules : List (String × Nat) := []
  toStderr : Bool := false
  alsoToStderr : Bool := false
  threshold : Nat := 2
deriving Repr, DecidableEq, Inhabited

/-- The settings of a run as the flags give them. -/
structure Settings where
  configPath : String := "scpdgen.yaml"
  address : String := ""
  output : String := ""
  importPath : String := ""
  parallelism : Int := 0
  fromDir : String := ""
  keepBroken : Bool := false
  roots : List Root := []
  logs : LogOptions := {}
  /-- The names of the flags given. -/
  given : List String := []
deriving Repr, DecidableEq, Inhabited

/-- Reads a root flag, `description=prefix` with a description. -/
def parseRoot (v : String) : Except String Root :=
  match v.splitOn "=" with
  | desc :: rest@(_ :: _) =>
    if desc.isEmpty then .error (quote v ++ " is not desc=prefix") else .ok ⟨desc, "=".intercalate rest⟩
  | _ => .error (quote v ++ " is not desc=prefix")

/-- The message of a syntax error in a log filter. -/
def moduleSyntax : String := "syntax error: expect comma-separated list of filename=N"

/-- Reads a log filter: comma-separated `pattern=N`; empty items and zero levels are skipped. -/
def parseModules (v : String) : Except String (List (String × Nat)) :=
  (v.splitOn ",").foldlM (fun acc pat =>
    if pat.isEmpty then .ok acc
    else
      match pat.splitOn "=" with
      | [p, n] =>
        if p.isEmpty || n.isEmpty then .error moduleSyntax
        else
          match parseSigned n 10 32 with
          | .error _ => .error moduleSyntax
          | .ok l =>
            if l < 0 then .error "negative value for vmodule level"
            else if l == 0 then .ok acc
            else .ok (acc ++ [(p, l.toNat)])
      | _ => .error moduleSyntax) []

/-- The message of a syntax error in a backtrace location. -/
def traceSyntax : String := "syntax error: expect file.go:234"

/-- Checks backtrace locations: comma-separated `file.go:N`. -/
def checkTraceLocations (v : String) : Except String Unit :=
  (v.splitOn ",").forM fun s =>
    if s.isEmpty then .ok ()
    else
      match s.splitOn ":" with
      | [file, line] =>
        if !file.contains '.' then .error traceSyntax
        else
          match parseSigned line 10 64 with
          | .error _ => .error traceSyntax
          | .ok n => if n < 0 then .error "negative value for line" else .ok ()
      | _ => .error traceSyntax

/-- Reads a stderr threshold: a severity name or its number. -/
def parseThreshold (v : String) : Except String Nat :=
  match Severity.ofName? v with
  | some s => .ok s.rank
  | none =>
    match parseSigned v 10 64 with
    | .error e => .error (e.messageOf "Atoi" v)
    | .ok n =>
      if n < 0 || n > 3 then
        .error ("Severity " ++ toString n ++ " out of range (min 0, max 3).")
      else .ok n.toNat

/-- Sets a flag to a value, or says why the value is refused. -/
def setFlag (s : Settings) (name value : String) : Except String Settings :=
  let intValue : Except String Int := match parseSigned value 0 64 with
    | .ok n => .ok n
    | .error .invalidSyntax => .error "parse error"
    | .error .outOfRange => .error "value out of range"
  let boolValue : Except String Bool := match parseBool value with
    | some b => .ok b
    | none => .error "parse error"
  match name with
  | "config" => .ok { s with configPath := value }
  | "address" => .ok { s with address := value }
  | "output" => .ok { s with output := value }
  | "import-path" => .ok { s with importPath := value }
  | "from-dir" => .ok { s with fromDir := value }
  | "log_dir" => .ok s
  | "log_link" => .ok s
  | "parallelism" => intValue.map fun n => { s with parallelism := n }
  | "logbuflevel" => intValue.map fun _ => s
  | "keep-broken" => boolValue.map fun b => { s with keepBroken := b }
  | "logtostderr" => boolValue.map fun b => { s with logs := { s.logs with toStderr := b } }
  | "alsologtostderr" => boolValue.map fun b => { s with logs := { s.logs with alsoToStderr := b } }
  | "root" => (parseRoot value).map fun r => { s with roots := s.roots ++ [r] }
  | "v" =>
    match parseSigned value 10 32 with
    | .ok n => .ok { s with logs := { s.logs with verbosity := n } }
    | .error e => .error (e.messageOf "ParseInt" value)
  | "vmodule" => (parseModules value).map fun ms => { s with logs := { s.logs with modules := ms } }
  | "log_backtrace_at" => (checkTraceLocations value).map fun _ => s
  | "stderrthreshold" => (parseThreshold value).map fun t => { s with logs := { s.logs with threshold := t } }
  | _ => .ok s

/-- How reading the flags ends: with settings and the arguments left, with
a request for the usage text, or with a refused flag's message. -/
inductive Parsed where
  | settings (s : Settings) (rest : List String)
  | help
  | failed (message : String)
deriving Repr, DecidableEq, Inhabited

/-- Records that a flag was given. -/
def Settings.mark (s : Settings) (name : String) : Settings :=
  if s.given.contains name then s else { s with given := s.given ++ [name] }

/-- Reads the flags at the front of the arguments. -/
def parseFlags (s : Settings) : List String → Parsed
  | [] => .settings s []
  | arg :: rest =>
    match arg.toList with
    | '-' :: c :: more =>
      let (dashes, body) := if c == '-' then (2, more) else (1, c :: more)
      if dashes == 2 && body.isEmpty then .settings s rest
      else
        match body with
        | [] | '-' :: _ | '=' :: _ => .failed ("bad flag syntax: " ++ arg)
        | first :: tail =>
          let nameTail := tail.takeWhile (· != '=')
          let name := String.ofList (first :: nameTail)
          let valuePart := tail.drop nameTail.length
          let given := !valuePart.isEmpty
          let value := String.ofList (valuePart.drop 1)
          match flagSpecs.find? (·.name == name) with
          | none =>
            if name == "help" || name == "h" then .help
            else .failed ("flag provided but not defined: -" ++ name)
          | some spec =>
            if spec.kind == .boolean then
              let v := if given then value else "true"
              match setFlag s name v with
              | .ok s' => parseFlags (s'.mark name) rest
              | .error e =>
                if given then .failed ("invalid boolean value " ++ quote v ++ " for -" ++ name ++ ": " ++ e)
                else .failed ("invalid boolean flag " ++ name ++ ": " ++ e)
            else
              let refused (v e : String) : Parsed :=
                .failed ("invalid value " ++ quote v ++ " for flag -" ++ name ++ ": " ++ e)
              if given then
                match setFlag s name value with
                | .ok s' => parseFlags (s'.mark name) rest
                | .error e => refused value e
              else
                match rest with
                | [] => .failed ("flag needs an argument: -" ++ name)
                | next :: more =>
                  match setFlag s name next with
                  | .ok s' => parseFlags (s'.mark name) more
                  | .error e => refused next e
    | _ => .settings s (arg :: rest)

end UpnpBind.Cli
