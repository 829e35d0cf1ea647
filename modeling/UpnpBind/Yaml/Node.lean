import UpnpBind.Yaml.Events
import UpnpBind.Yaml.Resolve

/-!
# YAML nodes

The events of the first document of a stream, composed into a tree of
scalar, sequence, mapping and alias nodes. Each node has a tag in short form:
the one written, else `!!str` for a quoted or block scalar, `!!seq` and
`!!map` for collections, and for a plain scalar the tag its text resolves to.
Lines and columns count from 1.

An anchored node is kept in a table by number, and an alias names the number
of the node its anchor named when the alias was read; an alias to an unknown
anchor is an error. A collection's anchor is known inside the collection, so
an alias may refer to a node that contains it.

Reading stops after the first document: later documents are not read at all.
-/

namespace UpnpBind.Yaml

/-- The kinds of nodes. -/
inductive NodeKind where
  | scalar
  | sequence
  | mapping
  | alias
deriving Repr, DecidableEq, Inhabited

/-- What a node holds besides its children. -/
structure NodeInfo where
  kind : NodeKind
  /-- The tag, short form; empty for an alias. -/
  tag : String
  /-- A scalar's text, or the anchor name of an alias. -/
  value : String
  style : ScalarStyle := .plain
  line : Nat
  column : Nat
  /-- For an alias, the number of the anchored node. -/
  target : Nat := 0
  /-- For an alias, which alias of the document it is. -/
  serial : Nat := 0
deriving Repr, DecidableEq, Inhabited

/-- A node and its children: the items of a sequence, or the keys and values
of a mapping, alternating. -/
inductive Node where
  | mk (info : NodeInfo) (content : List Node)
deriving Repr, Inhabited

namespace Node

/-- What the node holds besides its children. -/
def info : Node → NodeInfo
  | .mk i _ => i

/-- The children. -/
def content : Node → List Node
  | .mk _ c => c

end Node

/-- A composed document: its root, and its anchored nodes by number. -/
structure Document where
  root : Node
  anchored : Array Node
deriving Inhabited

/-- The composer's state. -/
structure Composer where
  parser : EventParser
  pending : Option Event := none
  /-- The anchor names seen, latest first, with the numbers of their nodes. -/
  anchors : List (String × Nat) := []
  anchored : Array Node := #[]
  aliases : Nat := 0
deriving Inhabited

/-- A composing step; errors are full messages. -/
abbrev ComposeM := StateT Composer (Except String)

namespace Compose

/-- The next event, read when needed. -/
def peek : ComposeM Event := do
  let c ← get
  match c.pending with
  | some e => return e
  | none =>
    match EventParser.next.run c.parser with
    | .error p => throw ("yaml: " ++ p.message)
    | .ok (none, p) =>
      set { c with parser := p }
      throw "yaml: attempted to go past the end of stream; corrupted value?"
    | .ok (some e, p) =>
      set { c with parser := p, pending := some e }
      return e

/-- The name of an event's kind, as messages give it. -/
def EventKind.name : EventKind → String
  | .streamStart => "STREAM-START"
  | .streamEnd => "STREAM-END"
  | .documentStart _ => "DOCUMENT-START"
  | .documentEnd _ => "DOCUMENT-END"
  | .alias _ => "ALIAS"
  | .scalar .. => "SCALAR"
  | .sequenceStart .. => "SEQUENCE-START"
  | .sequenceEnd => "SEQUENCE-END"
  | .mappingStart .. => "MAPPING-START"
  | .mappingEnd => "MAPPING-END"

/-- Takes the next event, which must be of the kind `want` names. -/
def expect (want : String) : ComposeM Event := do
  let e ← peek
  if e.kind == .streamEnd && want != "STREAM-END" then
    throw "yaml: attempted to go past the end of stream; corrupted value?"
  if EventKind.name e.kind != want then
    throw ("yaml: expected " ++ want ++ " event but got " ++ EventKind.name e.kind)
  modify fun c => { c with pending := none }
  return e

/-- The tag of a new node: the one written unless empty or `!`, else the default,
else for a scalar the tag its text resolves to. -/
def nodeTag (kind : NodeKind) (defaultTag tag value : String) : String :=
  if tag != "" && tag != "!" then shortTag tag
  else if defaultTag != "" then defaultTag
  else if kind == .scalar then (resolveText "" value).1
  else ""

/-- Reserves the number of an anchored node. -/
def reserveAnchor (name : String) : ComposeM (Option Nat) := do
  if name.isEmpty then return none
  let c ← get
  let id := c.anchored.size
  set { c with anchors := (name, id) :: c.anchors, anchored := c.anchored.push default }
  return some id

/-- Records an anchored node under its number. -/
def fillAnchor (id : Option Nat) (n : Node) : ComposeM Unit :=
  match id with
  | some i => modify fun c => { c with anchored := c.anchored.setIfInBounds i n }
  | none => pure ()

/-- A scalar node. -/
def scalar : ComposeM Node := do
  let e ← peek
  match e.kind with
  | .scalar anchor tag text _ _ style =>
    let defaultTag := if style == .plain then (if text == "<<" then mergeTag else "") else strTag
    let n := Node.mk { kind := .scalar, tag := nodeTag .scalar defaultTag tag text, value := text, style,
                       line := e.start.line + 1, column := e.start.column + 1 } []
    fillAnchor (← reserveAnchor anchor) n
    let _ ← expect "SCALAR"
    return n
  | _ => throw "yaml: internal error: scalar expected"

/-- An alias node. -/
def aliasNode : ComposeM Node := do
  let e ← peek
  match e.kind with
  | .alias name =>
    let c ← get
    match c.anchors.lookup name with
    | none => throw ("yaml: unknown anchor '" ++ name ++ "' referenced")
    | some id =>
      set { c with aliases := c.aliases + 1 }
      let _ ← expect "ALIAS"
      return .mk { kind := .alias, tag := "", value := name, line := e.start.line + 1,
                   column := e.start.column + 1, target := id, serial := c.aliases } []
  | _ => throw "yaml: internal error: alias expected"

/-- A node and everything in it; none at the end of the stream. -/
def node : Nat → ComposeM (Option Node)
  | 0 => throw "yaml: document is nested too deeply"
  | fuel + 1 => do
    let e ← peek
    match e.kind with
    | .scalar .. => some <$> scalar
    | .alias _ => some <$> aliasNode
    | .sequenceStart anchor tag _ _ =>
      let info : NodeInfo := { kind := .sequence, tag := nodeTag .sequence seqTag tag "", value := "",
                               line := e.start.line + 1, column := e.start.column + 1 }
      let id ← reserveAnchor anchor
      let _ ← expect "SEQUENCE-START"
      let mut items : Array Node := #[]
      for _ in [0:(← get).parser.scanner.fuel] do
        if (← peek).kind == .sequenceEnd then break
        match ← node fuel with
        | some n => items := items.push n
        | none => throw "yaml: attempted to go past the end of stream; corrupted value?"
      let _ ← expect "SEQUENCE-END"
      let n := Node.mk info items.toList
      fillAnchor id n
      return some n
    | .mappingStart anchor tag _ _ =>
      let info : NodeInfo := { kind := .mapping, tag := nodeTag .mapping mapTag tag "", value := "",
                               line := e.start.line + 1, column := e.start.column + 1 }
      let id ← reserveAnchor anchor
      let _ ← expect "MAPPING-START"
      let mut items : Array Node := #[]
      for _ in [0:(← get).parser.scanner.fuel] do
        if (← peek).kind == .mappingEnd then break
        for _ in [0:2] do
          match ← node fuel with
          | some n => items := items.push n
          | none => throw "yaml: attempted to go past the end of stream; corrupted value?"
      let _ ← expect "MAPPING-END"
      let n := Node.mk info items.toList
      fillAnchor id n
      return some n
    | .documentStart _ =>
      let _ ← expect "DOCUMENT-START"
      let child ← node fuel
      let _ ← expect "DOCUMENT-END"
      return child
    | .streamEnd => return none
    | _ => throw ("yaml: internal error: attempted to parse unknown event: " ++ EventKind.name e.kind)

end Compose

/-- The first document of a YAML text, or none when the text holds no document. -/
def Document.read (text : String) : Except String (Option Document) := do
  let scanner ← match Scanner.ofText text with
    | .ok s => pure s
    | .error p => throw ("yaml: " ++ p.message)
  let run : ComposeM (Option Node) := do
    let _ ← Compose.expect "STREAM-START"
    Compose.node (4 * text.length + 16)
  match run.run { parser := { scanner } } with
  | .error e => throw e
  | .ok (none, _) => return none
  | .ok (some root, c) => return some { root, anchored := c.anchored }

end UpnpBind.Yaml
