import UpnpBind.GoSource.Scanner
import UpnpBind.GoSource.Span

/-!
# The parser's state and its basic moves

The parser reads one token ahead. Moving on collects the comments in between
into groups: a group on the line of the previous token that ends its line is a
line comment; a group ending on the line right before the next token is a lead
comment. Declarations, specifications and fields take these as their trailing
and documenting comments.

Errors are recorded with their positions. A parse error on the line of the
error recorded last is dropped as a likely follow-on, and parsing gives up
once more than ten errors are recorded. Recovery skips tokens up to one that
can start a statement or declaration, or end an expression, making sure the
same place is not returned to more than ten times.
-/

namespace UpnpBind.GoSource

/-- The parser's state. -/
structure ParseState where
  scanner : Scanner
  /-- The offsets at which lines start. -/
  lines : Array Nat
  pos : Pos := 0
  tok : Tok := .eof
  lit : String := ""
  errors : Array (Pos × String) := #[]
  comments : Array CommentGroup := #[]
  leadComment : Option CommentGroup := none
  lineComment : Option CommentGroup := none
  syncPos : Pos := 0
  syncCnt : Nat := 0
  exprLev : Int := 0
  inRhs : Bool := false

/-- Parsing stops early when too many errors were found, with the errors so far. -/
inductive Stop where
  | bailout (errors : Array (Pos × String))
deriving Repr

/-- A parsing step. -/
abbrev P := StateT ParseState (Except Stop)

/-- The line starts of a source. -/
def lineStarts (src : ByteArray) : Array Nat :=
  (List.range src.size).foldl (fun acc i => if byteAt src i == 10 then acc.push (i + 1) else acc) #[0]

/-- The number of line starts at or before an offset, by halving. -/
def countStarts (lines : Array Nat) (off : Nat) : Nat → Nat → Nat → Nat
  | 0, lo, _ => lo
  | fuel + 1, lo, hi =>
    if lo ≥ hi then lo
    else
      let mid := (lo + hi) / 2
      if lines.getD mid 0 ≤ off then countStarts lines off fuel (mid + 1) hi
      else countStarts lines off fuel lo mid

/-- The line of a position, counted from 1. -/
def lineIn (lines : Array Nat) (p : Pos) : Nat :=
  countStarts lines (p - 1) (lines.size + 1) 0 lines.size

/-- The column of a position, in bytes counted from 1. -/
def columnIn (lines : Array Nat) (p : Pos) : Nat :=
  let l := lineIn lines p
  p - 1 - lines.getD (l - 1) 0 + 1

namespace P

/-- Stops parsing, keeping the errors found so far. -/
def giveUp {α : Type} : P α := do throw (.bailout (← get).errors)

/-- The line of a position. -/
def lineOf (p : Pos) : P Nat := do return lineIn (← get).lines p

/-- Records an error unless it is on the line of the last one; gives up after ten. -/
def error (pos : Pos) (msg : String) : P Unit := do
  let s ← get
  let n := s.errors.size
  if n > 0 && lineIn s.lines (s.errors.getD (n - 1) (0, "")).1 == lineIn s.lines pos then return
  if n > 10 then throw (.bailout s.errors)
  set { s with errors := s.errors.push (pos, msg) }

/-- Scans one token, comments included, and records the scanner's reports. -/
def next0 : P Unit := do
  let s ← get
  let (sc, off, tok, lit) := s.scanner.scan
  let errs := sc.errors.map fun (o, m) => (o + 1, m)
  set { s with scanner := { sc with errors := #[] }, pos := off + 1, tok, lit, errors := s.errors ++ errs }

/-- Consumes a comment; also the line it ends on. -/
def consumeComment : P (Comment × Nat) := do
  let s ← get
  let start := lineIn s.lines s.pos
  let extra := if s.lit.startsWith "/*" then (s.lit.toList.filter (· == '\n')).length else 0
  let c : Comment := ⟨s.pos, s.lit⟩
  next0
  return (c, start + extra)

/-- Consumes adjacent comments, at most `n` lines apart, as a group; also the
line the group ends on. -/
def consumeGroup (n : Nat) : P (CommentGroup × Nat) := do
  let s ← get
  let rec loop : Nat → List Comment → Nat → P (List Comment × Nat)
    | 0, acc, e => return (acc, e)
    | fuel + 1, acc, e => do
      let s ← get
      if s.tok == .comment && lineIn s.lines s.pos ≤ e + n then
        let (c, e') ← consumeComment
        loop fuel (acc ++ [c]) e'
      else return (acc, e)
  let (list, endline) ← loop (s.scanner.src.size + 1) [] (lineIn s.lines s.pos)
  let g : CommentGroup := ⟨list⟩
  modify fun s => { s with comments := s.comments.push g }
  return (g, endline)

/-- Moves to the next token that is not a comment, collecting comment groups and
noting the lead and line comments. -/
def next : P Unit := do
  modify fun s => { s with leadComment := none, lineComment := none }
  let prev := (← get).pos
  next0
  let s ← get
  if s.tok == .comment then
    let mut lastGroup : Option CommentGroup := none
    if lineIn s.lines s.pos == lineIn s.lines prev then
      let (g, endline) ← consumeGroup 0
      lastGroup := some g
      let s ← get
      if lineIn s.lines s.pos != endline || s.tok == .semicolon || s.tok == .eof then
        set { s with lineComment := some g }
    let rec loop : Nat → Option CommentGroup → Int → P (Option CommentGroup × Int)
      | 0, g, e => return (g, e)
      | fuel + 1, g, e => do
        if (← get).tok == .comment then
          let (g', e') ← consumeGroup 1
          loop fuel (some g') e'
        else return (g, e)
    let (g, endline) ← loop ((← get).scanner.src.size + 1) lastGroup (-1)
    let s ← get
    if endline + 1 == (lineIn s.lines s.pos : Int) then
      set { s with leadComment := g }

/-- An error saying what was expected, and what was found when it is about the current token. -/
def errorExpected (pos : Pos) (msg : String) : P Unit := do
  let s ← get
  let found :=
    if pos == s.pos then
      if s.tok == .semicolon && s.lit == "\n" then ", found newline"
      else if s.tok.isLiteral then ", found " ++ s.lit
      else ", found '" ++ s.tok.name ++ "'"
    else ""
  error pos ("expected " ++ msg ++ found)

/-- Consumes a token of a kind, complaining if it is another; its position. -/
def expect (t : Tok) : P Pos := do
  let s ← get
  if s.tok != t then errorExpected s.pos ("'" ++ t.name ++ "'")
  next
  return s.pos

/-- Like `expect`, but no position when the token is another. -/
def expect2 (t : Tok) : P Pos := do
  let s ← get
  let p ← if s.tok == t then pure s.pos else do errorExpected s.pos ("'" ++ t.name ++ "'"); pure 0
  next
  return p

/-- Like `expect`, with a better message for a missing comma before a newline. -/
def expectClosing (t : Tok) (context : String) : P Pos := do
  let s ← get
  if s.tok != t && s.tok == .semicolon && s.lit == "\n" then
    error s.pos ("missing ',' before newline in " ++ context)
    next
  expect t

/-- Whether a comma follows; a token other than the closing one counts as a
missing comma, with a complaint. -/
def atComma (context : String) (follow : Tok) : P Bool := do
  let s ← get
  if s.tok == .comma then return true
  if s.tok != follow then
    let msg := "missing ','" ++ (if s.tok == .semicolon && s.lit == "\n" then " before newline" else "")
    error s.pos (msg ++ " in " ++ context)
    return true
  return false

/-- The tokens that start statements, for recovery. -/
def stmtStart (t : Tok) : Bool :=
  match t with
  | .kw "break" | .kw "const" | .kw "continue" | .kw "defer" | .kw "fallthrough" | .kw "for"
  | .kw "go" | .kw "goto" | .kw "if" | .kw "return" | .kw "select" | .kw "switch" | .kw "type"
  | .kw "var" => true
  | _ => false

/-- The tokens that start declarations, for recovery. -/
def declStart (t : Tok) : Bool :=
  match t with
  | .kw "import" | .kw "const" | .kw "type" | .kw "var" => true
  | _ => false

/-- The tokens that end expressions, for recovery. -/
def exprEnd (t : Tok) : Bool :=
  t == .comma || t == .colon || t == .semicolon || t == .rparen || t == .rbrack || t == .rbrace

/-- Skips tokens up to one of a set, or the end; returns at the same place at
most ten times in a row. -/
def advance (stop : Tok → Bool) : P Unit := do
  let rec loop : Nat → P Unit
    | 0 => return
    | fuel + 1 => do
      let s ← get
      if s.tok == .eof then return
      if stop s.tok then
        if s.pos == s.syncPos && s.syncCnt < 10 then
          set { s with syncCnt := s.syncCnt + 1 }
          return
        if s.pos > s.syncPos then
          set { s with syncPos := s.pos, syncCnt := 0 }
          return
      next
      loop fuel
  loop ((← get).scanner.src.size + 2)

/-- Consumes the semicolon ending a declaration or statement and returns the
comment trailing it; before a closing parenthesis or brace it may be missing. -/
def expectSemi : P (Option CommentGroup) := do
  let s ← get
  if s.tok == .rparen || s.tok == .rbrace then return none
  if s.tok == .comma || s.tok == .semicolon then
    if s.tok == .comma then errorExpected s.pos "';'"
    let s ← get
    if s.lit == ";" then
      next
      return (← get).lineComment
    else
      let c := s.lineComment
      next
      return c
  errorExpected s.pos "';'"
  advance stmtStart
  return none

end P

end UpnpBind.GoSource
