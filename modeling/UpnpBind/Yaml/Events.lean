import UpnpBind.Yaml.Scanner

/-!
# YAML events

The parser reads tokens and reports the structure as events: stream and
document boundaries, the start and end of each sequence and mapping, scalars
and aliases. It is a state machine whose state names what may come next, with
a stack of states to return to after a nested node, and a stack of the marks
where the enclosing collections started, for error messages.

An empty node (a key without value, a `-` without entry, a document without
content) is reported as an empty plain scalar. Only YAML 1.1 documents are
read; a `%YAML` directive for another version is "found incompatible YAML
document". Tag handles resolve through the `%TAG` directives of the document
and the two standard handles `!` and `!!`.
-/

namespace UpnpBind.Yaml

/-- The kinds of events, with their contents. Tags are in full form. -/
inductive EventKind where
  | streamStart
  | streamEnd
  | documentStart (implicit : Bool)
  | documentEnd (implicit : Bool)
  | alias (anchor : String)
  /-- A scalar; `plainImplicit` when its tag may be resolved from a plain text. -/
  | scalar (anchor tag text : String) (plainImplicit quotedImplicit : Bool) (style : ScalarStyle)
  | sequenceStart (anchor tag : String) (implicit flow : Bool)
  | sequenceEnd
  | mappingStart (anchor tag : String) (implicit flow : Bool)
  | mappingEnd
deriving Repr, Inhabited, DecidableEq

/-- An event and where it starts and ends. -/
structure Event where
  kind : EventKind
  start : Mark
  stop : Mark
deriving Repr, Inhabited

/-- What the parser expects next. -/
inductive ParseState where
  | streamStart
  | implicitDocumentStart
  | documentStart
  | documentContent
  | documentEnd
  | blockNode
  | blockNodeOrIndentlessSequence
  | flowNode
  | blockSequenceFirstEntry
  | blockSequenceEntry
  | indentlessSequenceEntry
  | blockMappingFirstKey
  | blockMappingKey
  | blockMappingValue
  | flowSequenceFirstEntry
  | flowSequenceEntry
  | flowSequenceEntryMappingKey
  | flowSequenceEntryMappingValue
  | flowSequenceEntryMappingEnd
  | flowMappingFirstKey
  | flowMappingKey
  | flowMappingValue
  | flowMappingEmptyValue
  | finished
deriving Repr, Inhabited, DecidableEq

/-- The parser's state. -/
structure EventParser where
  scanner : Scanner
  state : ParseState := .streamStart
  /-- States to return to, innermost first. -/
  states : List ParseState := []
  /-- Where the enclosing collections start, innermost first. -/
  marks : List Mark := []
  /-- The tag handles of the current document and their prefixes. -/
  tagDirectives : List (String × String) := []
deriving Inhabited

/-- A parsing step. -/
abbrev EventM := StateT EventParser (Except Problem)

/-- The standard tag handles. -/
def standardTagDirectives : List (String × String) := [("!", "!"), ("!!", "tag:yaml.org,2002:")]

namespace Parse

/-- Runs a scanning step on the parser's scanner. -/
def scan {α : Type} (m : ScanM α) : EventM α := do
  let p ← get
  match m.run p.scanner with
  | .ok (a, s) =>
    set { p with scanner := s }
    return a
  | .error e => throw e

/-- The next token, fetched when needed. -/
def peekToken : EventM Token := do
  if !(← get).scanner.available then scan Scan.fetchMoreTokens
  match (← get).scanner.queue.head? with
  | some t => return t
  | none => throw { stage := .parser, problem := "did not find expected <stream-end>" }

/-- Takes the next token. -/
def skipToken : EventM Unit := modify fun p =>
  match p.scanner.queue with
  | t :: rest =>
    { p with scanner := { p.scanner with queue := rest, taken := p.scanner.taken + 1, available := false,
                                          streamEndProduced := t.kind == .streamEnd } }
  | [] => p

/-- Stops with a problem at a mark. -/
def fail {α : Type} (problem : String) (mark : Mark) : EventM α :=
  throw { stage := .parser, problem, problemMark := mark }

/-- Stops with a problem at a mark, about a construct starting at another. -/
def failIn {α : Type} (context : String) (contextMark : Mark) (problem : String) (mark : Mark) : EventM α :=
  throw { stage := .parser, context, contextMark, problem, problemMark := mark }

/-- Returns to the state on top of the stack. -/
def popState : EventM Unit := modify fun p =>
  match p.states with
  | s :: rest => { p with state := s, states := rest }
  | [] => p

/-- Saves a state to return to. -/
def pushState (s : ParseState) : EventM Unit := modify fun p => { p with states := s :: p.states }

/-- Saves where a collection starts. -/
def pushMark (m : Mark) : EventM Unit := modify fun p => { p with marks := m :: p.marks }

/-- Forgets where the innermost collection starts, returning it. -/
def popMark : EventM Mark := do
  let p ← get
  match p.marks with
  | m :: rest =>
    set { p with marks := rest }
    return m
  | [] => return {}

/-- Sets the next state. -/
def goTo (s : ParseState) : EventM Unit := modify fun p => { p with state := s }

/-- An empty plain scalar at a mark. -/
def emptyScalar (m : Mark) : Event :=
  { kind := .scalar "" "" "" true false .plain, start := m, stop := m }

/-- Adds a tag directive; a handle defined twice is an error unless `allowDuplicate`. -/
def addTagDirective (handle pfx : String) (allowDuplicate : Bool) (m : Mark) : EventM Unit := do
  let p ← get
  if p.tagDirectives.any (·.1 == handle) then
    if allowDuplicate then return
    fail "found duplicate %TAG directive" m
  set { p with tagDirectives := p.tagDirectives ++ [(handle, pfx)] }

/-- Reads the directives before a document, then adds the standard tag handles. -/
def processDirectives : EventM Unit := do
  let mut seenVersion := false
  for _ in [0:(← get).scanner.fuel] do
    let t ← peekToken
    match t.kind with
    | .versionDirective major minor =>
      if seenVersion then fail "found duplicate %YAML directive" t.start
      if major != 1 || minor != 1 then fail "found incompatible YAML document" t.start
      seenVersion := true
    | .tagDirective handle pfx => addTagDirective handle pfx false t.start
    | _ => break
    skipToken
  let t ← peekToken
  for (handle, pfx) in standardTagDirectives do
    addTagDirective handle pfx true t.start

/-- The start of the stream. -/
def streamStart : EventM Event := do
  let t ← peekToken
  if t.kind != .streamStart then fail "did not find expected <stream-start>" t.start
  goTo .implicitDocumentStart
  skipToken
  return { kind := .streamStart, start := t.start, stop := t.stop }

/-- The start of a document, or the end of the stream. -/
def documentStart (implicit : Bool) : EventM Event := do
  let mut t ← peekToken
  if !implicit then
    for _ in [0:(← get).scanner.fuel] do
      if t.kind != .documentEnd then break
      skipToken
      t ← peekToken
  let isDirective := match t.kind with
    | .versionDirective .. | .tagDirective .. => true
    | _ => false
  if implicit && !isDirective && t.kind != .documentStart && t.kind != .streamEnd then
    processDirectives
    pushState .documentEnd
    goTo .blockNode
    return { kind := .documentStart true, start := t.start, stop := t.start }
  else if t.kind != .streamEnd then
    let start := t.start
    processDirectives
    let t' ← peekToken
    if t'.kind != .documentStart then fail "did not find expected <document start>" t'.start
    pushState .documentEnd
    goTo .documentContent
    skipToken
    return { kind := .documentStart false, start, stop := t'.stop }
  else
    goTo .finished
    skipToken
    return { kind := .streamEnd, start := t.start, stop := t.stop }

/-- The content of an explicit document, possibly empty. -/
def documentContentEmpty : EventM (Option Event) := do
  let t ← peekToken
  match t.kind with
  | .versionDirective .. | .tagDirective .. | .documentStart | .documentEnd | .streamEnd =>
    popState
    return some (emptyScalar t.start)
  | _ => return none

/-- The end of a document. -/
def documentEnd : EventM Event := do
  let t ← peekToken
  let (stop, implicit) ← if t.kind == .documentEnd then do
      skipToken
      pure (t.stop, false)
    else pure (t.start, true)
  modify fun p => { p with tagDirectives := [], state := .documentStart }
  return { kind := .documentEnd implicit, start := t.start, stop }

/-- A node: an alias, or a scalar or collection with an optional anchor and tag. -/
def node (block indentlessSequence : Bool) : EventM Event := do
  let t ← peekToken
  if let .alias name := t.kind then
    popState
    skipToken
    return { kind := .alias name, start := t.start, stop := t.stop }
  let mut start := t.start
  let mut stop := t.start
  let mut anchor := ""
  let mut tagged : Option (String × String × Mark) := none
  let mut t := t
  if let .anchor name := t.kind then
    anchor := name
    stop := t.stop
    skipToken
    t ← peekToken
    if let .tag handle suffix := t.kind then
      tagged := some (handle, suffix, t.start)
      stop := t.stop
      skipToken
      t ← peekToken
  else if let .tag handle suffix := t.kind then
    tagged := some (handle, suffix, t.start)
    stop := t.stop
    skipToken
    t ← peekToken
    if let .anchor name := t.kind then
      anchor := name
      stop := t.stop
      skipToken
      t ← peekToken
  let mut tag := ""
  if let some (handle, suffix, tagMark) := tagged then
    if handle.isEmpty then tag := suffix
    else
      match (← get).tagDirectives.find? (·.1 == handle) with
      | some (_, pfx) => tag := pfx ++ suffix
      | none => failIn "while parsing a node" start "found undefined tag handle" tagMark
      if tag.isEmpty then failIn "while parsing a node" start "found undefined tag handle" tagMark
  let implicit := tag.isEmpty
  if indentlessSequence && t.kind == .blockEntry then
    goTo .indentlessSequenceEntry
    return { kind := .sequenceStart anchor tag implicit false, start, stop := t.stop }
  match t.kind with
  | .scalar text style =>
    let plainImplicit := (tag.isEmpty && style == .plain) || tag == "!"
    let quotedImplicit := !plainImplicit && tag.isEmpty
    popState
    skipToken
    return { kind := .scalar anchor tag text plainImplicit quotedImplicit style, start, stop := t.stop }
  | .flowSequenceStart =>
    goTo .flowSequenceFirstEntry
    return { kind := .sequenceStart anchor tag implicit true, start, stop := t.stop }
  | .flowMappingStart =>
    goTo .flowMappingFirstKey
    return { kind := .mappingStart anchor tag implicit true, start, stop := t.stop }
  | .blockSequenceStart =>
    if block then
      goTo .blockSequenceFirstEntry
      return { kind := .sequenceStart anchor tag implicit false, start, stop := t.stop }
  | .blockMappingStart =>
    if block then
      goTo .blockMappingFirstKey
      return { kind := .mappingStart anchor tag implicit false, start, stop := t.stop }
  | _ => pure ()
  if !anchor.isEmpty || !tag.isEmpty then
    popState
    return { kind := .scalar anchor tag "" implicit false .plain, start, stop }
  failIn (if block then "while parsing a block node" else "while parsing a flow node") start
    "did not find expected node content" t.start

/-- An entry of a block sequence, or its end. -/
def blockSequenceEntry (first : Bool) : EventM Event := do
  if first then
    pushMark (← peekToken).start
    skipToken
  let t ← peekToken
  if t.kind == .blockEntry then
    let m := t.stop
    skipToken
    let t ← peekToken
    if t.kind != .blockEntry && t.kind != .blockEnd then
      pushState .blockSequenceEntry
      node true false
    else
      goTo .blockSequenceEntry
      return emptyScalar m
  else if t.kind == .blockEnd then
    popState
    let _ ← popMark
    skipToken
    return { kind := .sequenceEnd, start := t.start, stop := t.stop }
  else
    failIn "while parsing a block collection" (← popMark) "did not find expected '-' indicator" t.start

/-- An entry of a sequence without indentation, or its end. -/
def indentlessSequenceEntry : EventM Event := do
  let t ← peekToken
  if t.kind == .blockEntry then
    let m := t.stop
    skipToken
    let t ← peekToken
    if t.kind != .blockEntry && t.kind != .key && t.kind != .value && t.kind != .blockEnd then
      pushState .indentlessSequenceEntry
      node true false
    else
      goTo .indentlessSequenceEntry
      return emptyScalar m
  else
    popState
    return { kind := .sequenceEnd, start := t.start, stop := t.start }

/-- A key of a block mapping, or its end. -/
def blockMappingKey (first : Bool) : EventM Event := do
  if first then
    pushMark (← peekToken).start
    skipToken
  let t ← peekToken
  if t.kind == .key then
    let m := t.stop
    skipToken
    let t ← peekToken
    if t.kind != .key && t.kind != .value && t.kind != .blockEnd then
      pushState .blockMappingValue
      node true true
    else
      goTo .blockMappingValue
      return emptyScalar m
  else if t.kind == .blockEnd then
    popState
    let _ ← popMark
    skipToken
    return { kind := .mappingEnd, start := t.start, stop := t.stop }
  else
    failIn "while parsing a block mapping" (← popMark) "did not find expected key" t.start

/-- A value of a block mapping, possibly empty. -/
def blockMappingValue : EventM Event := do
  let t ← peekToken
  if t.kind == .value then
    let m := t.stop
    skipToken
    let t ← peekToken
    if t.kind != .key && t.kind != .value && t.kind != .blockEnd then
      pushState .blockMappingKey
      node true true
    else
      goTo .blockMappingKey
      return emptyScalar m
  else
    goTo .blockMappingKey
    return emptyScalar t.start

/-- An entry of a flow sequence, or its end. A `key: value` entry is a
mapping of one pair. -/
def flowSequenceEntry (first : Bool) : EventM Event := do
  if first then
    pushMark (← peekToken).start
    skipToken
  let mut t ← peekToken
  if t.kind != .flowSequenceEnd then
    if !first then
      if t.kind == .flowEntry then
        skipToken
        t ← peekToken
      else
        failIn "while parsing a flow sequence" (← popMark) "did not find expected ',' or ']'" t.start
    if t.kind == .key then
      goTo .flowSequenceEntryMappingKey
      skipToken
      return { kind := .mappingStart "" "" true true, start := t.start, stop := t.stop }
    else if t.kind != .flowSequenceEnd then
      pushState .flowSequenceEntry
      return ← node false false
  popState
  let _ ← popMark
  skipToken
  return { kind := .sequenceEnd, start := t.start, stop := t.stop }

/-- The key of a one-pair mapping in a flow sequence. -/
def flowSequenceEntryMappingKey : EventM Event := do
  let t ← peekToken
  if t.kind != .value && t.kind != .flowEntry && t.kind != .flowSequenceEnd then
    pushState .flowSequenceEntryMappingValue
    node false false
  else
    let m := t.stop
    skipToken
    goTo .flowSequenceEntryMappingValue
    return emptyScalar m

/-- The value of a one-pair mapping in a flow sequence. -/
def flowSequenceEntryMappingValue : EventM Event := do
  let t ← peekToken
  if t.kind == .value then
    skipToken
    let t' ← peekToken
    if t'.kind != .flowEntry && t'.kind != .flowSequenceEnd then
      pushState .flowSequenceEntryMappingEnd
      return ← node false false
  goTo .flowSequenceEntryMappingEnd
  return emptyScalar t.start

/-- The end of a one-pair mapping in a flow sequence. -/
def flowSequenceEntryMappingEnd : EventM Event := do
  let t ← peekToken
  goTo .flowSequenceEntry
  return { kind := .mappingEnd, start := t.start, stop := t.start }

/-- A key of a flow mapping, or its end. -/
def flowMappingKey (first : Bool) : EventM Event := do
  if first then
    pushMark (← peekToken).start
    skipToken
  let mut t ← peekToken
  if t.kind != .flowMappingEnd then
    if !first then
      if t.kind == .flowEntry then
        skipToken
        t ← peekToken
      else
        failIn "while parsing a flow mapping" (← popMark) "did not find expected ',' or '\x7d'" t.start
    if t.kind == .key then
      skipToken
      let t' ← peekToken
      if t'.kind != .value && t'.kind != .flowEntry && t'.kind != .flowMappingEnd then
        pushState .flowMappingValue
        return ← node false false
      else
        goTo .flowMappingValue
        return emptyScalar t'.start
    else if t.kind != .flowMappingEnd then
      pushState .flowMappingEmptyValue
      return ← node false false
  popState
  let _ ← popMark
  skipToken
  return { kind := .mappingEnd, start := t.start, stop := t.stop }

/-- A value of a flow mapping, possibly empty. -/
def flowMappingValue (empty : Bool) : EventM Event := do
  let t ← peekToken
  if empty then
    goTo .flowMappingKey
    return emptyScalar t.start
  if t.kind == .value then
    skipToken
    let t' ← peekToken
    if t'.kind != .flowEntry && t'.kind != .flowMappingEnd then
      pushState .flowMappingKey
      return ← node false false
    goTo .flowMappingKey
    return emptyScalar t'.start
  goTo .flowMappingKey
  return emptyScalar t.start

end Parse

/-- The next event, or none after the end of the stream. -/
def EventParser.next : EventM (Option Event) := do
  let p ← get
  if p.scanner.streamEndProduced || p.state == .finished then return none
  some <$> match p.state with
  | .streamStart => Parse.streamStart
  | .implicitDocumentStart => Parse.documentStart true
  | .documentStart => Parse.documentStart false
  | .documentContent => do
    match ← Parse.documentContentEmpty with
    | some e => pure e
    | none => Parse.node true false
  | .documentEnd => Parse.documentEnd
  | .blockNode => Parse.node true false
  | .blockNodeOrIndentlessSequence => Parse.node true true
  | .flowNode => Parse.node false false
  | .blockSequenceFirstEntry => Parse.blockSequenceEntry true
  | .blockSequenceEntry => Parse.blockSequenceEntry false
  | .indentlessSequenceEntry => Parse.indentlessSequenceEntry
  | .blockMappingFirstKey => Parse.blockMappingKey true
  | .blockMappingKey => Parse.blockMappingKey false
  | .blockMappingValue => Parse.blockMappingValue
  | .flowSequenceFirstEntry => Parse.flowSequenceEntry true
  | .flowSequenceEntry => Parse.flowSequenceEntry false
  | .flowSequenceEntryMappingKey => Parse.flowSequenceEntryMappingKey
  | .flowSequenceEntryMappingValue => Parse.flowSequenceEntryMappingValue
  | .flowSequenceEntryMappingEnd => Parse.flowSequenceEntryMappingEnd
  | .flowMappingFirstKey => Parse.flowMappingKey true
  | .flowMappingKey => Parse.flowMappingKey false
  | .flowMappingValue => Parse.flowMappingValue false
  | .flowMappingEmptyValue => Parse.flowMappingValue true
  | .finished => pure (Parse.emptyScalar {})

end UpnpBind.Yaml
