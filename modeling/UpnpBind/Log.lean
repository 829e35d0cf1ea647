import UpnpBind.Failure

/-!
# Logging

A run logs lines of four severities as it goes. Each line is written by a
statement at a site, a file name and a line number, which the line's header
names; a verbose line is written only when the verbosity reaches its level.
A logged computation keeps the lines of every step it took, also when a later
step fails, so a failure reports everything that was logged before it.

Which of the lines reach the terminal is the command line's business; the
computations here only collect them in order.
-/

namespace UpnpBind

/-- How serious a log line is. -/
inductive Severity where
  | info
  | warning
  | error
  | fatal
deriving Repr, DecidableEq, Inhabited

namespace Severity

/-- The rank of a severity, from 0 for information to 3 for fatal. -/
def rank : Severity → Nat
  | .info => 0
  | .warning => 1
  | .error => 2
  | .fatal => 3

/-- The letter a line's header starts with. -/
def letter : Severity → Char
  | .info => 'I'
  | .warning => 'W'
  | .error => 'E'
  | .fatal => 'F'

/-- The severity of a rank; ranks past 3 are fatal. -/
def ofRank : Nat → Severity
  | 0 => .info
  | 1 => .warning
  | 2 => .error
  | _ => .fatal

/-- Reads a severity's name, in any case. -/
def ofName? (s : String) : Option Severity :=
  match s.toUpper with
  | "INFO" => some .info
  | "WARNING" => some .warning
  | "ERROR" => some .error
  | "FATAL" => some .fatal
  | _ => none

end Severity

/-- One log line: its severity, the verbosity it needs (0 for a line that is
always written), the site of the statement that writes it, and its text. -/
structure LogLine where
  severity : Severity := .info
  level : Nat := 0
  file : String
  line : Nat
  text : String
deriving Repr, DecidableEq, Inhabited

/-- A computation that logs as it goes and may fail; the lines logged before a
failure are kept. -/
abbrev Logged := ExceptT Error (StateM (Array LogLine))

namespace Logged

/-- Logs one line. -/
def log (l : LogLine) : Logged Unit := modify (·.push l)

/-- Logs a verbose line at a level. -/
def verbose (level : Nat) (file : String) (line : Nat) (text : String) : Logged Unit :=
  log { level, file, line, text }

/-- Logs a warning. -/
def warning (file : String) (line : Nat) (text : String) : Logged Unit :=
  log { severity := .warning, file, line, text }

/-- A result that logs nothing. -/
def ofExcept {α : Type} : Except Error α → Logged α
  | .ok a => pure a
  | .error e => throw e

/-- The result of a logged computation and the lines it logged. -/
def run {α : Type} (m : Logged α) : Except Error α × Array LogLine :=
  (ExceptT.run m).run #[]

/-- The result alone. -/
def result {α : Type} (m : Logged α) : Except Error α := m.run.1

end Logged

end UpnpBind
