/-!
# YAML tokens

The scanner turns YAML text into tokens: stream and document markers,
directives, block and flow collection indicators, keys, values, anchors,
aliases, tags and scalars. Block structure comes from indentation: a deeper
column opens a block collection and a shallower one closes it.

A plain or quoted scalar may turn out to be a mapping key only when a `:`
follows it, so the scanner remembers, per flow level, where such a *simple
key* could start. When the `:` comes, a KEY token (and a BLOCK-MAPPING-START
token if the key opens a new block mapping) is inserted into the token queue
before the key's first token. A simple key lies on one line and is at most
1024 characters long; a key that must be a simple key (in block context at the
indentation column) but ends without `:` is the error "could not find expected
':'".

Tokens are produced on demand: the queue is filled until it holds three tokens
and the one at its head can no longer become a simple key. An error surfaces
when the token that needs it is fetched, so errors in text after the first
document may never be seen.

Comments are skipped; a comment right after a token on its line is consumed
together with the blanks before it, tabs included.
-/

namespace UpnpBind.Yaml

/-- A place in the text: character index, line and column, both from 0. -/
structure Mark where
  index : Nat := 0
  line : Nat := 0
  column : Nat := 0
deriving Repr, Inhabited, DecidableEq

/-- How a scalar was written. -/
inductive ScalarStyle where
  | plain
  | singleQuoted
  | doubleQuoted
  | literal
  | folded
deriving Repr, Inhabited, DecidableEq

/-- The kinds of tokens, with their contents. -/
inductive TokenKind where
  | streamStart
  | streamEnd
  | versionDirective (major minor : Nat)
  | tagDirective (handle pfx : String)
  | documentStart
  | documentEnd
  | blockSequenceStart
  | blockMappingStart
  | blockEnd
  | flowSequenceStart
  | flowSequenceEnd
  | flowMappingStart
  | flowMappingEnd
  | blockEntry
  | flowEntry
  | key
  | value
  | alias (name : String)
  | anchor (name : String)
  /-- A tag: its handle (`!`, `!!`, `!name!` or empty for a verbatim tag) and suffix. -/
  | tag (handle suffix : String)
  | scalar (text : String) (style : ScalarStyle)
deriving Repr, Inhabited, DecidableEq

/-- A token and where it starts and ends. -/
structure Token where
  kind : TokenKind
  start : Mark
  stop : Mark
deriving Repr, Inhabited

/-- Where a simple key could start, and whether it must be one. -/
structure SimpleKey where
  possible : Bool := false
  required : Bool := false
  tokenNumber : Nat := 0
  mark : Mark := {}
deriving Repr, Inhabited

/-- The stage of reading that found a problem. -/
inductive Stage where
  | reader
  | scanner
  | parser
deriving Repr, Inhabited, DecidableEq

/-- A problem found while reading YAML: where the construct being read starts,
what is wrong and where that was noticed. -/
structure Problem where
  stage : Stage
  context : String := ""
  contextMark : Mark := {}
  problem : String
  problemMark : Mark := {}
deriving Repr, Inhabited

/-- The text of a problem, prefixed by a line number when one is known. The
line is that of the context, else that of the problem, when not the first
line; a scanner counts lines from 1 there, the parser from 0. -/
def Problem.message (p : Problem) : String :=
  let bump := if p.stage == .scanner then 1 else 0
  let line :=
    if p.contextMark.line != 0 then p.contextMark.line + bump
    else if p.problemMark.line != 0 then p.problemMark.line + bump
    else 0
  (if line != 0 then "line " ++ toString line ++ ": " else "") ++ p.problem

/-- Whether a character is a blank: a space or a tab. -/
def isBlank (c : Char) : Bool := c == ' ' || c == '\t'

/-- Whether a character breaks a line. -/
def isBreak (c : Char) : Bool :=
  c == '\r' || c == '\n' || c == '\u0085' || c == '\u2028' || c == '\u2029'

/-- The end of the text reads as the character 0, which the text cannot hold. -/
def isEnd (c : Char) : Bool := c == '\x00'

/-- A line break or the end. -/
def isBreakOrEnd (c : Char) : Bool := isBreak c || isEnd c

/-- A blank, a line break or the end. -/
def isBlankOrEnd (c : Char) : Bool := isBlank c || isBreakOrEnd c

/-- The characters of anchor names, directive names and tag handles. -/
def isWordChar (c : Char) : Bool :=
  ('0' ≤ c && c ≤ '9') || ('A' ≤ c && c ≤ 'Z') || ('a' ≤ c && c ≤ 'z') || c == '_' || c == '-'

/-- A decimal digit. -/
def isDigit (c : Char) : Bool := '0' ≤ c && c ≤ '9'

/-- A hexadecimal digit. -/
def isHex (c : Char) : Bool :=
  isDigit c || ('a' ≤ c && c ≤ 'f') || ('A' ≤ c && c ≤ 'F')

/-- The value of a hexadecimal digit. -/
def hexValue (c : Char) : Nat :=
  if isDigit c then c.toNat - '0'.toNat
  else if 'a' ≤ c && c ≤ 'f' then c.toNat - 'a'.toNat + 10
  else c.toNat - 'A'.toNat + 10

/-- Whether a character may appear in YAML text at all. -/
def isPrintable (c : Char) : Bool :=
  let v := c.toNat
  v == 0x09 || v == 0x0A || v == 0x0D || (0x20 ≤ v && v ≤ 0x7E) || v == 0x85 ||
    (0xA0 ≤ v && v ≤ 0xD7FF) || (0xE000 ≤ v && v ≤ 0xFFFD) || (0x10000 ≤ v && v ≤ 0x10FFFF)

/-- The scanner's state. -/
structure Scanner where
  input : Array Char
  mark : Mark := {}
  /-- Tokens fetched and not yet taken, in order. -/
  queue : List Token := []
  /-- How many tokens were taken. -/
  taken : Nat := 0
  available : Bool := false
  streamStartProduced : Bool := false
  streamEndProduced : Bool := false
  indent : Int := -1
  /-- The enclosing indentation levels, innermost first. -/
  indents : List Int := []
  simpleKeyAllowed : Bool := false
  /-- The possible simple key of each flow level, the current level last. -/
  simpleKeys : Array SimpleKey := #[]
  /-- For a token number, the flow level whose possible simple key starts there. -/
  keyOfToken : List (Nat × Nat) := []
  flowLevel : Nat := 0
  /-- Line breaks since the last character that is not blank. -/
  newlines : Nat := 0
deriving Inhabited

/-- A scanning step. -/
abbrev ScanM := StateT Scanner (Except Problem)

/-- The character `k` places ahead. -/
def Scanner.at (s : Scanner) (k : Nat) : Char := s.input.getD (s.mark.index + k) '\x00'

/-- A bound on the steps of any loop over the text. -/
def Scanner.fuel (s : Scanner) : Nat := s.input.size + 2

namespace Scan

/-- The character `k` places ahead. -/
def peek (k : Nat := 0) : ScanM Char := return (← get).at k

/-- Stops with a problem noticed here, about a construct starting at `contextMark`. -/
def fail {α : Type} (context : String) (contextMark : Mark) (problem : String) : ScanM α := do
  throw { stage := .scanner, context, contextMark, problem, problemMark := (← get).mark }

/-- Moves past one character that is not a line break. -/
def skip : ScanM Unit := modify fun s =>
  { s with
    mark := { s.mark with index := s.mark.index + 1, column := s.mark.column + 1 }
    newlines := if isBlank (s.at 0) then s.newlines else 0 }

/-- Moves past a line break, CR LF counting as one. -/
def skipLine : ScanM Unit := modify fun s =>
  if s.at 0 == '\r' && s.at 1 == '\n' then
    { s with mark := { index := s.mark.index + 2, line := s.mark.line + 1, column := 0 },
             newlines := s.newlines + 1 }
  else if isBreak (s.at 0) then
    { s with mark := { index := s.mark.index + 1, line := s.mark.line + 1, column := 0 },
             newlines := s.newlines + 1 }
  else s

/-- Moves past one character, adding it to `acc`. -/
def read (acc : String) : ScanM String := do
  let c ← peek
  skip
  return acc.push c

/-- Moves past a line break, adding it to `acc` as a newline; the line and
paragraph separators are kept as they are. -/
def readLine (acc : String) : ScanM String := do
  let s ← get
  let c := s.at 0
  let step (n : Nat) (out : Char) : ScanM String := do
    set { s with mark := { index := s.mark.index + n, line := s.mark.line + 1, column := 0 },
                 newlines := s.newlines + 1 }
    return acc.push out
  if c == '\r' && s.at 1 == '\n' then step 2 '\n'
  else if c == '\r' || c == '\n' || c == '\u0085' then step 1 '\n'
  else if c == '\u2028' || c == '\u2029' then step 1 c
  else return acc

/-- Skips blanks. -/
def skipBlanks : ScanM Unit := do
  for _ in [0:(← get).fuel] do
    if isBlank (← peek) then skip else break

/-- Skips to the end of the line. -/
def skipToBreak : ScanM Unit := do
  for _ in [0:(← get).fuel] do
    if isBreakOrEnd (← peek) then break else skip

/-- Appends a token to the queue. -/
def push (t : Token) : ScanM Unit := modify fun s => { s with queue := s.queue ++ [t] }

/-- Inserts a token into the queue at a position counted from its head. -/
def insertAt (pos : Nat) (t : Token) : ScanM Unit := modify fun s =>
  { s with queue := s.queue.take pos ++ t :: s.queue.drop pos }

/-- The number the next token will have. -/
def nextNumber (s : Scanner) : Nat := s.taken + s.queue.length

/-- Whether the possible simple key of a flow level is still possible here;
a required key that no longer is fails. -/
def keyStillPossible (level : Nat) : ScanM Bool := do
  let s ← get
  match s.simpleKeys[level]? with
  | none => return false
  | some k =>
    if !k.possible then return false
    if k.mark.line < s.mark.line || k.mark.index + 1024 < s.mark.index then
      if k.required then fail "while scanning a simple key" k.mark "could not find expected ':'"
      set { s with simpleKeys := s.simpleKeys.setIfInBounds level { k with possible := false } }
      return false
    return true

/-- Drops the possible simple key of the current flow level; a required one fails. -/
def removeSimpleKey : ScanM Unit := do
  let s ← get
  let level := s.simpleKeys.size - 1
  match s.simpleKeys[level]? with
  | some k =>
    if k.possible then
      if k.required then fail "while scanning a simple key" k.mark "could not find expected ':'"
      set { s with simpleKeys := s.simpleKeys.setIfInBounds level { k with possible := false },
                   keyOfToken := s.keyOfToken.filter (·.1 != k.tokenNumber) }
  | none => pure ()

/-- Notes that a simple key could start here, when one is allowed. -/
def saveSimpleKey : ScanM Unit := do
  let s ← get
  if s.simpleKeyAllowed then
    let required := s.flowLevel == 0 && s.indent == (s.mark.column : Int)
    let k : SimpleKey := { possible := true, required, tokenNumber := nextNumber s, mark := s.mark }
    removeSimpleKey
    modify fun s =>
      let level := s.simpleKeys.size - 1
      { s with simpleKeys := s.simpleKeys.setIfInBounds level k,
               keyOfToken := (k.tokenNumber, level) :: s.keyOfToken.filter (·.1 != k.tokenNumber) }

/-- Enters a flow collection. -/
def increaseFlowLevel : ScanM Unit := do
  modify fun s =>
    { s with simpleKeys := s.simpleKeys.push { tokenNumber := nextNumber s, mark := s.mark },
             flowLevel := s.flowLevel + 1 }
  let s ← get
  if s.flowLevel > 10000 then
    fail "while increasing flow level" (s.simpleKeys.back?.map (·.mark)).get! "exceeded max depth of 10000"

/-- Leaves a flow collection. -/
def decreaseFlowLevel : ScanM Unit := modify fun s =>
  if s.flowLevel > 0 then
    let gone := (s.simpleKeys.back?.map (·.tokenNumber)).getD 0
    { s with flowLevel := s.flowLevel - 1, simpleKeys := s.simpleKeys.pop,
             keyOfToken := s.keyOfToken.filter (·.1 != gone) }
  else s

/-- In block context, opens a block collection at a deeper column: pushes the
indentation and adds the collection's start token, appended or, for a token
number, inserted where that token stands. -/
def rollIndent (column : Int) (number : Option Nat) (kind : TokenKind) (mark : Mark) : ScanM Unit := do
  let s ← get
  if s.flowLevel > 0 then return
  if s.indent < column then
    set { s with indents := s.indent :: s.indents, indent := column }
    if s.indents.length + 1 > 10000 then
      fail "while increasing indent level" (s.simpleKeys.back?.map (·.mark)).get! "exceeded max depth of 10000"
    let t : Token := { kind, start := mark, stop := mark }
    match number with
    | some n => insertAt (n - s.taken) t
    | none => push t

/-- In block context, closes the block collections deeper than a column, each
with a BLOCK-END token placed just before where scanning for the next token began. -/
def unrollIndent (column : Int) (scanMark : Mark) : ScanM Unit := do
  if (← get).flowLevel > 0 then return
  let blockMark := { scanMark with index := scanMark.index - 1 }
  for _ in [0:(← get).indents.length + 1] do
    let s ← get
    if s.indent > column then
      push { kind := .blockEnd, start := blockMark, stop := blockMark }
      match s.indents with
      | i :: rest => modify fun s => { s with indent := i, indents := rest }
      | [] => modify fun s => { s with indent := -1 }
    else break

/-- Skips the comment lines starting here, and the blank lines between them. -/
def skipComments : ScanM Unit := do
  let mut ahead := 0
  for _ in [0:513 * (← get).fuel] do
    if ahead ≥ 512 then break
    let s ← get
    let c := s.at ahead
    if isBlank c then
      ahead := ahead + 1
      continue
    let closeFlow := s.flowLevel > 0 && (c == ']' || c == '}')
    if closeFlow || isBreakOrEnd c then
      if !isBreak c then break
      ahead := ahead + 1
      continue
    if c != '#' then break
    let seen := s.mark.index + ahead
    for _ in [0:2 * s.fuel] do
      let s ← get
      if isBreakOrEnd (s.at 0) then
        if s.mark.index ≥ seen then break
        skipLine
      else skip
    ahead := 0

/-- Skips a comment that follows a token on its line, with the blanks before it. -/
def skipLineComment : ScanM Unit := do
  let s ← get
  if s.newlines > 0 then return
  for ahead in [0:512] do
    let c := s.at ahead
    if isBlank c then continue
    if c == '#' then
      let seen := s.mark.index + ahead
      for _ in [0:2 * s.fuel] do
        let s ← get
        if isBreakOrEnd (s.at 0) then
          if s.mark.index ≥ seen then break
          skipLine
        else skip
    break

/-- Skips blanks, comments and line breaks up to the next token. Tabs count
as blanks only in flow context or where no simple key may start; a line break
in block context allows a simple key again. -/
def scanToNextToken : ScanM Unit := do
  for _ in [0:(← get).fuel] do
    let s ← get
    if s.mark.column == 0 && s.at 0 == '\uFEFF' then skip
    for _ in [0:(← get).fuel] do
      let s ← get
      let c := s.at 0
      if c == ' ' || ((s.flowLevel > 0 || !s.simpleKeyAllowed) && c == '\t') then skip else break
    if (← peek) == '#' then skipComments
    if isBreak (← peek) then
      skipLine
      modify fun s => if s.flowLevel == 0 then { s with simpleKeyAllowed := true } else s
    else break

/-- The stream's start. -/
def fetchStreamStart : ScanM Unit := do
  modify fun s =>
    { s with indent := -1, simpleKeys := #[{}], keyOfToken := [], simpleKeyAllowed := true,
             streamStartProduced := true }
  let m := (← get).mark
  push { kind := .streamStart, start := m, stop := m }

/-- The stream's end, on a line of its own. -/
def fetchStreamEnd : ScanM Unit := do
  modify fun s =>
    if s.mark.column != 0 then { s with mark := { s.mark with column := 0, line := s.mark.line + 1 } }
    else s
  unrollIndent (-1) (← get).mark
  removeSimpleKey
  modify fun s => { s with simpleKeyAllowed := false }
  let m := (← get).mark
  push { kind := .streamEnd, start := m, stop := m }

/-- A directive's name. -/
def scanDirectiveName (start : Mark) : ScanM String := do
  let mut name := ""
  for _ in [0:(← get).fuel] do
    if isWordChar (← peek) then name ← read name else break
  if name.isEmpty then fail "while scanning a directive" start "could not find expected directive name"
  if !isBlankOrEnd (← peek) then
    fail "while scanning a directive" start "found unexpected non-alphabetical character"
  return name

/-- One number of a `%YAML` directive, of at most two digits. -/
def scanVersionNumber (start : Mark) : ScanM Nat := do
  let mut value := 0
  let mut length := 0
  for _ in [0:(← get).fuel] do
    let c ← peek
    if !isDigit c then break
    length := length + 1
    if length > 2 then fail "while scanning a %YAML directive" start "found extremely long version number"
    value := value * 10 + (c.toNat - '0'.toNat)
    skip
  if length == 0 then fail "while scanning a %YAML directive" start "did not find expected version number"
  return value

/-- A tag handle: `!`, `!!` or `!name!`. In a `%TAG` directive only these
forms are allowed; in a tag, a `!name` without the closing `!` is returned as
it is, to be read as the start of a suffix. -/
def scanTagHandle (directive : Bool) (start : Mark) : ScanM String := do
  let context := if directive then "while parsing a %TAG directive" else "while parsing a tag"
  if (← peek) != '!' then fail context start "did not find expected '!'"
  let mut s ← read ""
  for _ in [0:(← get).fuel] do
    if isWordChar (← peek) then s ← read s else break
  if (← peek) == '!' then
    s ← read s
  else if directive && s != "!" then
    fail context start "did not find expected '!'"
  return s

/-- The bytes of a UTF-8 sequence written as URI escapes `%XX`. -/
def scanUriEscapes (directive : Bool) (start : Mark) : ScanM (List UInt8) := do
  let context := if directive then "while parsing a %TAG directive" else "while parsing a tag"
  let mut width := 1024
  let mut bytes : List UInt8 := []
  for _ in [0:5] do
    if width == 0 then break
    let s ← get
    if !(s.at 0 == '%' && isHex (s.at 1) && isHex (s.at 2)) then
      fail context start "did not find URI escaped octet"
    let octet := hexValue (s.at 1) * 16 + hexValue (s.at 2)
    if width == 1024 then
      width :=
        if octet &&& 0x80 == 0 then 1 else if octet &&& 0xE0 == 0xC0 then 2
        else if octet &&& 0xF0 == 0xE0 then 3 else if octet &&& 0xF8 == 0xF0 then 4 else 0
      if width == 0 then fail context start "found an incorrect leading UTF-8 octet"
    else if octet &&& 0xC0 != 0x80 then
      fail context start "found an incorrect trailing UTF-8 octet"
    bytes := bytes ++ [octet.toUInt8]
    skip; skip; skip
    width := width - 1
  return bytes

/-- Text of bytes that should be UTF-8; each byte of a broken sequence reads as U+FFFD. -/
def decodeBytes (bytes : List UInt8) : String :=
  match String.fromUTF8? (ByteArray.mk bytes.toArray) with
  | some s => s
  | none => String.ofList (bytes.map fun b => if b < 0x80 then Char.ofNat b.toNat else '\uFFFD')

/-- The characters a tag URI may hold; inside `!<...>` also `,`, `[` and `]`. -/
def isUriChar (verbatim : Bool) (c : Char) : Bool :=
  isWordChar c || ";/?:@&=+$.!~*'()%".contains c || (verbatim && ",[]".contains c)

/-- A tag URI, after `head` without its leading `!`. -/
def scanTagUri (verbatim directive : Bool) (head : String) (start : Mark) : ScanM String := do
  let mut s := if head.length > 1 then String.ofList (head.toList.drop 1) else ""
  let mut hasTag := !head.isEmpty
  for _ in [0:(← get).fuel] do
    let c ← peek
    if !isUriChar verbatim c then break
    if c == '%' then
      let bytes ← scanUriEscapes directive start
      s := s ++ decodeBytes bytes
    else
      s ← read s
    hasTag := true
  if !hasTag then
    fail (if directive then "while parsing a %TAG directive" else "while parsing a tag") start
      "did not find expected tag URI"
  return s

/-- A `%YAML` or `%TAG` directive, up to and with its line break. -/
def fetchDirective : ScanM Unit := do
  unrollIndent (-1) (← get).mark
  removeSimpleKey
  modify fun s => { s with simpleKeyAllowed := false }
  let start := (← get).mark
  skip
  let name ← scanDirectiveName start
  let kind ← if name == "YAML" then do
      skipBlanks
      let major ← scanVersionNumber start
      if (← peek) != '.' then
        fail "while scanning a %YAML directive" start "did not find expected digit or '.' character"
      skip
      let minor ← scanVersionNumber start
      pure (TokenKind.versionDirective major minor)
    else if name == "TAG" then do
      skipBlanks
      let handle ← scanTagHandle true start
      if !isBlank (← peek) then fail "while scanning a %TAG directive" start "did not find expected whitespace"
      skipBlanks
      let pfx ← scanTagUri true true "" start
      if !isBlankOrEnd (← peek) then
        fail "while scanning a %TAG directive" start "did not find expected whitespace or line break"
      pure (TokenKind.tagDirective handle pfx)
    else fail "while scanning a directive" start "found unknown directive name"
  let stop := (← get).mark
  skipBlanks
  if (← peek) == '#' then skipToBreak
  if !isBreakOrEnd (← peek) then
    fail "while scanning a directive" start "did not find expected comment or line break"
  if isBreak (← peek) then skipLine
  push { kind, start, stop }

/-- A `---` or `...` marker. -/
def fetchDocumentIndicator (kind : TokenKind) : ScanM Unit := do
  unrollIndent (-1) (← get).mark
  removeSimpleKey
  modify fun s => { s with simpleKeyAllowed := false }
  let start := (← get).mark
  skip; skip; skip
  push { kind, start, stop := (← get).mark }

/-- A one-character indicator token. -/
def indicator (kind : TokenKind) : ScanM Unit := do
  let start := (← get).mark
  skip
  push { kind, start, stop := (← get).mark }

/-- `[` or `{`, which may start a simple key. -/
def fetchFlowCollectionStart (kind : TokenKind) : ScanM Unit := do
  saveSimpleKey
  increaseFlowLevel
  modify fun s => { s with simpleKeyAllowed := true }
  indicator kind

/-- `]` or `}`. -/
def fetchFlowCollectionEnd (kind : TokenKind) : ScanM Unit := do
  removeSimpleKey
  decreaseFlowLevel
  modify fun s => { s with simpleKeyAllowed := false }
  indicator kind

/-- `,` in a flow collection. -/
def fetchFlowEntry : ScanM Unit := do
  removeSimpleKey
  modify fun s => { s with simpleKeyAllowed := true }
  indicator .flowEntry

/-- `-` starting a block sequence entry. -/
def fetchBlockEntry : ScanM Unit := do
  let s ← get
  if s.flowLevel == 0 then
    if !s.simpleKeyAllowed then fail "" s.mark "block sequence entries are not allowed in this context"
    rollIndent s.mark.column none .blockSequenceStart s.mark
  removeSimpleKey
  modify fun s => { s with simpleKeyAllowed := true }
  indicator .blockEntry

/-- `?` starting a complex key. -/
def fetchKey : ScanM Unit := do
  let s ← get
  if s.flowLevel == 0 then
    if !s.simpleKeyAllowed then fail "" s.mark "mapping keys are not allowed in this context"
    rollIndent s.mark.column none .blockMappingStart s.mark
  removeSimpleKey
  modify fun s => { s with simpleKeyAllowed := s.flowLevel == 0 }
  indicator .key

/-- `:` after a key. After a possible simple key, the KEY token goes in
front of the key, opening a block mapping at its column if needed. -/
def fetchValue : ScanM Unit := do
  let level := (← get).simpleKeys.size - 1
  if ← keyStillPossible level then
    let s ← get
    let k := s.simpleKeys[level]!
    insertAt (k.tokenNumber - s.taken) { kind := .key, start := k.mark, stop := k.mark }
    rollIndent k.mark.column (some k.tokenNumber) .blockMappingStart k.mark
    modify fun s =>
      { s with simpleKeys := s.simpleKeys.setIfInBounds level { k with possible := false },
               keyOfToken := s.keyOfToken.filter (·.1 != k.tokenNumber),
               simpleKeyAllowed := false }
  else
    let s ← get
    if s.flowLevel == 0 then
      if !s.simpleKeyAllowed then fail "" s.mark "mapping values are not allowed in this context"
      rollIndent s.mark.column none .blockMappingStart s.mark
    modify fun s => { s with simpleKeyAllowed := s.flowLevel == 0 }
  indicator .value

/-- `&name` or `*name`. -/
def fetchAnchor (isAlias : Bool) : ScanM Unit := do
  saveSimpleKey
  modify fun s => { s with simpleKeyAllowed := false }
  let start := (← get).mark
  skip
  let mut name := ""
  for _ in [0:(← get).fuel] do
    if isWordChar (← peek) then name ← read name else break
  let stop := (← get).mark
  let c ← peek
  if name.isEmpty || !(isBlankOrEnd c || "?:,]\x7d%@`".contains c) then
    fail (if isAlias then "while scanning an alias" else "while scanning an anchor") start
      "did not find expected alphabetic or numeric character"
  push { kind := if isAlias then .alias name else .anchor name, start, stop }

/-- A tag: `!<uri>`, `!handle!suffix`, `!suffix` or `!`. -/
def fetchTag : ScanM Unit := do
  saveSimpleKey
  modify fun s => { s with simpleKeyAllowed := false }
  let start := (← get).mark
  let (handle, suffix) ← if (← peek 1) == '<' then do
      skip; skip
      let suffix ← scanTagUri true false "" start
      if (← peek) != '>' then fail "while scanning a tag" start "did not find the expected '>'"
      skip
      pure ("", suffix)
    else do
      let handle ← scanTagHandle false start
      if handle.length > 1 && handle.startsWith "!" && handle.endsWith "!" then
        pure (handle, ← scanTagUri false false "" start)
      else
        let suffix ← scanTagUri false false handle start
        if suffix.isEmpty then pure ("", "!") else pure ("!", suffix)
  let s ← get
  if !isBlankOrEnd (s.at 0) && (s.flowLevel == 0 || s.at 0 != ',') then
    fail "while scanning a tag" start "did not find expected whitespace or line break"
  push { kind := .tag handle suffix, start, stop := (← get).mark }

/-- The indentation and empty lines before a line of a block scalar, and the
line breaks among them; settles the indentation when it is not yet known. -/
def blockScalarBreaks (indent : Nat) (start : Mark) (breaks : String) :
    ScanM (Nat × String × Mark) := do
  let mut stop := (← get).mark
  let mut breaks := breaks
  let mut maxIndent := 0
  for _ in [0:(← get).fuel] do
    for _ in [0:(← get).fuel] do
      let s ← get
      if (indent == 0 || s.mark.column < indent) && s.at 0 == ' ' then skip else break
    let s ← get
    if s.mark.column > maxIndent then maxIndent := s.mark.column
    if (indent == 0 || s.mark.column < indent) && s.at 0 == '\t' then
      fail "while scanning a block scalar" start "found a tab character where an indentation space is expected"
    if !isBreak (s.at 0) then break
    breaks ← readLine breaks
    stop := (← get).mark
  let mut indent := indent
  if indent == 0 then
    let s ← get
    indent := max (max maxIndent (s.indent + 1).toNat) 1
  return (indent, breaks, stop)

/-- A literal (`|`) or folded (`>`) block scalar, with its chomping and
indentation indicators. -/
def scanBlockScalar (literal : Bool) : ScanM Token := do
  let start := (← get).mark
  skip
  let mut chomping : Int := 0
  let mut increment := 0
  let c ← peek
  if c == '+' || c == '-' then
    chomping := if c == '+' then 1 else -1
    skip
    let d ← peek
    if isDigit d then
      if d == '0' then fail "while scanning a block scalar" start "found an indentation indicator equal to 0"
      increment := d.toNat - '0'.toNat
      skip
  else if isDigit c then
    if c == '0' then fail "while scanning a block scalar" start "found an indentation indicator equal to 0"
    increment := c.toNat - '0'.toNat
    skip
    let d ← peek
    if d == '+' || d == '-' then
      chomping := if d == '+' then 1 else -1
      skip
  skipBlanks
  if (← peek) == '#' then
    skipLineComment
    skipToBreak
  if !isBreakOrEnd (← peek) then
    fail "while scanning a block scalar" start "did not find expected comment or line break"
  if isBreak (← peek) then skipLine
  let parentIndent := (← get).indent
  let indent0 := if increment > 0 then
      (if parentIndent ≥ 0 then (parentIndent + increment).toNat else increment)
    else 0
  let (indent, breaks0, stop0) ← blockScalarBreaks indent0 start ""
  let mut stop := stop0
  let mut text := ""
  let mut leadingBreak := ""
  let mut trailingBreaks := breaks0
  let mut leadingBlank := false
  for _ in [0:(← get).fuel] do
    let s ← get
    if !(s.mark.column == indent && !isEnd (s.at 0)) then break
    let trailingBlank := isBlank (s.at 0)
    if !literal && !leadingBlank && !trailingBlank && leadingBreak.startsWith "\n" then
      if trailingBreaks.isEmpty then text := text.push ' '
    else
      text := text ++ leadingBreak
    leadingBreak := ""
    text := text ++ trailingBreaks
    trailingBreaks := ""
    leadingBlank := isBlank (s.at 0)
    for _ in [0:(← get).fuel] do
      if isBreakOrEnd (← peek) then break
      text ← read text
    leadingBreak ← readLine leadingBreak
    let (_, breaks, stop') ← blockScalarBreaks indent start trailingBreaks
    trailingBreaks := breaks
    stop := stop'
  if chomping != -1 then text := text ++ leadingBreak
  if chomping == 1 then text := text ++ trailingBreaks
  return { kind := .scalar text (if literal then .literal else .folded), start, stop }

/-- The character an escape sequence of a double-quoted scalar stands for,
or the number of hexadecimal digits that follow it. -/
def escapeOf (c : Char) : Option (Sum Char Nat) :=
  match c with
  | '0' => some (.inl '\x00')
  | 'a' => some (.inl '\x07')
  | 'b' => some (.inl '\x08')
  | 't' | '\t' => some (.inl '\t')
  | 'n' => some (.inl '\n')
  | 'v' => some (.inl '\x0B')
  | 'f' => some (.inl '\x0C')
  | 'r' => some (.inl '\r')
  | 'e' => some (.inl '\x1B')
  | ' ' => some (.inl ' ')
  | '"' => some (.inl '"')
  | '\'' => some (.inl '\'')
  | '\\' => some (.inl '\\')
  | 'N' => some (.inl '\u0085')
  | '_' => some (.inl '\u00A0')
  | 'L' => some (.inl '\u2028')
  | 'P' => some (.inl '\u2029')
  | 'x' => some (.inr 2)
  | 'u' => some (.inr 4)
  | 'U' => some (.inr 8)
  | _ => none

/-- Whether a document marker starts at the current place, at a line start. -/
def atDocumentMarker (s : Scanner) : Bool :=
  s.mark.column == 0 &&
    ((s.at 0 == '-' && s.at 1 == '-' && s.at 2 == '-') || (s.at 0 == '.' && s.at 1 == '.' && s.at 2 == '.')) &&
    isBlankOrEnd (s.at 3)

/-- A single- or double-quoted scalar. Line breaks inside fold into a space,
or into the line breaks after the first; escapes apply in double quotes. -/
def scanFlowScalar (single : Bool) : ScanM Token := do
  let start := (← get).mark
  skip
  let mut text := ""
  let mut leadingBreak := ""
  let mut trailingBreaks := ""
  let mut whitespaces := ""
  for _ in [0:(← get).fuel] do
    let s ← get
    if atDocumentMarker s then
      fail "while scanning a quoted scalar" start "found unexpected document indicator"
    if isEnd (s.at 0) then fail "while scanning a quoted scalar" start "found unexpected end of stream"
    let mut leadingBlanks := false
    for _ in [0:(← get).fuel] do
      let s ← get
      let c := s.at 0
      if isBlankOrEnd c then break
      if single && c == '\'' && s.at 1 == '\'' then
        text := text.push '\''
        skip; skip
      else if single && c == '\'' then break
      else if !single && c == '"' then break
      else if !single && c == '\\' && isBreak (s.at 1) then
        skip
        skipLine
        leadingBlanks := true
        break
      else if !single && c == '\\' then
        match escapeOf (s.at 1) with
        | none => fail "while parsing a quoted scalar" start "found unknown escape character"
        | some (.inl ch) =>
          text := text.push ch
          skip; skip
        | some (.inr digits) =>
          skip; skip
          let s ← get
          let mut value := 0
          for k in [0:digits] do
            if !isHex (s.at k) then
              fail "while parsing a quoted scalar" start "did not find expected hexdecimal number"
            value := value * 16 + hexValue (s.at k)
          if (0xD800 ≤ value && value ≤ 0xDFFF) || value > 0x10FFFF then
            fail "while parsing a quoted scalar" start "found invalid Unicode character escape code"
          text := text.push (Char.ofNat value)
          for _ in [0:digits] do skip
      else
        text ← read text
    let c ← peek
    if (single && c == '\'') || (!single && c == '"') then break
    for _ in [0:(← get).fuel] do
      let c ← peek
      if isBlank c then
        if !leadingBlanks then whitespaces ← read whitespaces else skip
      else if isBreak c then
        if !leadingBlanks then
          whitespaces := ""
          leadingBreak ← readLine leadingBreak
          leadingBlanks := true
        else
          trailingBreaks ← readLine trailingBreaks
      else break
    if leadingBlanks then
      if leadingBreak.startsWith "\n" then
        if trailingBreaks.isEmpty then text := text.push ' ' else text := text ++ trailingBreaks
      else
        text := text ++ leadingBreak ++ trailingBreaks
      trailingBreaks := ""
      leadingBreak := ""
    else
      text := text ++ whitespaces
      whitespaces := ""
  skip
  return { kind := .scalar text (if single then .singleQuoted else .doubleQuoted), start, stop := (← get).mark }

/-- A plain scalar. It ends before `: `, before ` #`, before a flow
indicator in flow context, and in block context at a line indented no deeper
than the current block. -/
def scanPlainScalar : ScanM Token := do
  let indent := (← get).indent + 1
  let start := (← get).mark
  let mut stop := start
  let mut text := ""
  let mut leadingBreak := ""
  let mut trailingBreaks := ""
  let mut whitespaces := ""
  let mut leadingBlanks := false
  for _ in [0:(← get).fuel] do
    let s ← get
    if atDocumentMarker s then break
    if s.at 0 == '#' then break
    for _ in [0:(← get).fuel] do
      let s ← get
      let c := s.at 0
      if isBlankOrEnd c then break
      if (c == ':' && isBlankOrEnd (s.at 1)) || (s.flowLevel > 0 && ",?[]\x7b\x7d".contains c) then break
      if leadingBlanks || !whitespaces.isEmpty then
        if leadingBlanks then
          if leadingBreak.startsWith "\n" then
            if trailingBreaks.isEmpty then text := text.push ' ' else text := text ++ trailingBreaks
          else
            text := text ++ leadingBreak ++ trailingBreaks
          trailingBreaks := ""
          leadingBreak := ""
          leadingBlanks := false
        else
          text := text ++ whitespaces
          whitespaces := ""
      text ← read text
      stop := (← get).mark
    let c ← peek
    if !(isBlank c || isBreak c) then break
    for _ in [0:(← get).fuel] do
      let s ← get
      let c := s.at 0
      if isBlank c then
        if leadingBlanks && (s.mark.column : Int) < indent && c == '\t' then
          fail "while scanning a plain scalar" start "found a tab character that violates indentation"
        if !leadingBlanks then whitespaces ← read whitespaces else skip
      else if isBreak c then
        if !leadingBlanks then
          whitespaces := ""
          leadingBreak ← readLine leadingBreak
          leadingBlanks := true
        else
          trailingBreaks ← readLine trailingBreaks
      else break
    let s ← get
    if s.flowLevel == 0 && (s.mark.column : Int) < indent then break
  if leadingBlanks then modify fun s => { s with simpleKeyAllowed := true }
  return { kind := .scalar text .plain, start, stop }

/-- Whether a plain scalar may start here. -/
def startsPlain (s : Scanner) : Bool :=
  let c := s.at 0
  !(isBlankOrEnd c || "-?:,[]\x7b\x7d#&*!|>'\"%@`".contains c) ||
    (c == '-' && !isBlank (s.at 1)) ||
    (s.flowLevel == 0 && (c == '?' || c == ':') && !isBlankOrEnd (s.at 1))

/-- A token that is not a stream, directive or document marker. -/
def fetchContent : ScanM Unit := do
  let s ← get
  let c := s.at 0
  let next := s.at 1
  if c == '[' then fetchFlowCollectionStart .flowSequenceStart
  else if c == '{' then fetchFlowCollectionStart .flowMappingStart
  else if c == ']' then fetchFlowCollectionEnd .flowSequenceEnd
  else if c == '}' then fetchFlowCollectionEnd .flowMappingEnd
  else if c == ',' then fetchFlowEntry
  else if c == '-' && isBlankOrEnd next then fetchBlockEntry
  else if c == '?' && (s.flowLevel > 0 || isBlankOrEnd next) then fetchKey
  else if c == ':' && (s.flowLevel > 0 || isBlankOrEnd next) then fetchValue
  else if c == '*' then fetchAnchor true
  else if c == '&' then fetchAnchor false
  else if c == '!' then fetchTag
  else if (c == '|' || c == '>') && s.flowLevel == 0 then do
    removeSimpleKey
    modify fun s => { s with simpleKeyAllowed := true }
    push (← scanBlockScalar (c == '|'))
  else if c == '\'' || c == '"' then do
    saveSimpleKey
    modify fun s => { s with simpleKeyAllowed := false }
    push (← scanFlowScalar (c == '\''))
  else if startsPlain s then do
    saveSimpleKey
    modify fun s => { s with simpleKeyAllowed := false }
    push (← scanPlainScalar)
  else fail "while scanning for the next token" s.mark "found character that cannot start any token"

/-- Fetches the next token or tokens. -/
def fetchNextToken : ScanM Unit := do
  if !(← get).streamStartProduced then
    fetchStreamStart
    return
  let scanMark := (← get).mark
  scanToNextToken
  unrollIndent (← get).mark.column scanMark
  let s ← get
  let c := s.at 0
  if isEnd c then fetchStreamEnd
  else if s.mark.column == 0 && c == '%' then fetchDirective
  else if s.mark.column == 0 && c == '-' && s.at 1 == '-' && s.at 2 == '-' && isBlankOrEnd (s.at 3) then
    fetchDocumentIndicator .documentStart
  else if s.mark.column == 0 && c == '.' && s.at 1 == '.' && s.at 2 == '.' && isBlankOrEnd (s.at 3) then
    fetchDocumentIndicator .documentEnd
  else
    fetchContent
    match (← get).queue.getLast? with
    | some t => if t.kind != .blockEntry then skipLineComment
    | none => skipLineComment

/-- Fills the queue until it holds three tokens and its head cannot become a simple key. -/
def fetchMoreTokens : ScanM Unit := do
  for _ in [0:(← get).fuel + 16] do
    let s ← get
    if s.queue.length > 2 then
      match s.keyOfToken.lookup s.taken with
      | none => break
      | some level => if !(← keyStillPossible level) then break
    fetchNextToken
  modify fun s => { s with available := true }

end Scan

/-- A scanner over a text. A leading byte order mark is not part of it, and a
character that YAML text cannot hold is the error "control characters are not
allowed". -/
def Scanner.ofText (text : String) : Except Problem Scanner :=
  let chars := text.toList
  let chars := match chars with
    | '\uFEFF' :: rest => rest
    | cs => cs
  if chars.all isPrintable then .ok { input := chars.toArray }
  else .error { stage := .reader, problem := "control characters are not allowed" }

end UpnpBind.Yaml
