import UpnpBind.Yaml.Node
import UpnpBind.Text.Duration
import UpnpBind.Text.Quoted

/-!
# Decoding YAML into typed values

A document decodes into a value of a given shape: text, a 64-bit integer, a
duration, a type read from its text, a record of named fields, a list, or a
table from text keys. Decoding starts from a current value and changes only
what the document sets: a record keeps the fields the mapping does not name,
and a null keeps a text or number as it was but empties a list or table.

* Any scalar decodes into text, as written (a `!!binary` scalar as its
  decoded bytes).
* An integer scalar decodes into an integer; a float too, its fraction
  dropped, when it is at most the largest 64-bit integer.
* Only a string decodes into a duration, by its duration syntax.
* A type read from its text takes the scalar's text, and its reading error
  stops decoding at once, as the whole result.
* A mapping decodes into a record field by field, unknown keys ignored, or
  into a table entry by entry. A key given twice in one mapping is an error.
* A sequence decodes into a list, dropping the items that fail.

Anything else is a type error, such as "line 1: cannot unmarshal !!seq into
string"; decoding goes on, and all type errors are reported together. A
mapping key `<<` merges the mappings its value names into the mapping, keys
given directly winning.
-/

namespace UpnpBind.Yaml

open Text

/-- The shape of a value a document decodes into; `α` holds the types read
from their text. -/
inductive Shape (α : Type) where
  | text
  | integer
  | duration
  /-- A type named `name`, read from a scalar's text, with its zero value. -/
  | leaf (name : String) (read : String → Except String α) (zero : α)
  | record (name : String) (fields : List (String × Shape α))
  | list (elem : Shape α)
  | table (elem : Shape α)

/-- A decoded value. -/
inductive Value (α : Type) where
  | text (s : String)
  | integer (i : Int)
  | duration (nanoseconds : Int)
  | leaf (a : α)
  | record (fields : List (String × Value α))
  | list (items : List (Value α))
  | table (entries : List (String × Value α))
  /-- No list or table. -/
  | none

namespace Shape

variable {α : Type}

/-- The name of the type a shape stands for, as type errors give it. -/
def typeName : Shape α → String
  | .text => "string"
  | .integer => "int"
  | .duration => "time.Duration"
  | .leaf name _ _ => name
  | .record name _ => name
  | .list e => "[]" ++ e.typeName
  | .table e => "map[string]" ++ e.typeName

mutual

/-- The zero value of a shape. -/
def zero : Shape α → Value α
  | .text => .text ""
  | .integer => .integer 0
  | .duration => .duration 0
  | .leaf _ _ z => .leaf z
  | .record _ fields => .record (zeroFields fields)
  | .list _ => .none
  | .table _ => .none

/-- The zero values of fields. -/
def zeroFields : List (String × Shape α) → List (String × Value α)
  | [] => []
  | (n, s) :: rest => (n, zero s) :: zeroFields rest

end

end Shape

/-- Replaces or adds the entry of a key. -/
def setEntry {β : Type} (entries : List (String × β)) (k : String) (v : β) : List (String × β) :=
  if entries.any (·.1 == k) then entries.map fun e => if e.1 == k then (k, v) else e
  else entries ++ [(k, v)]

/-- The bytes of standard base64 text with padding; line breaks are ignored. -/
def base64Decode (s : String) : Option (List UInt8) := do
  let alphabet := "ABCDEFGHIJKLMNOPQRSTUVWXYZabcdefghijklmnopqrstuvwxyz0123456789+/".toList
  let cs := s.toList.filter (fun c => c != '\r' && c != '\n')
  if cs.length % 4 != 0 then none
  let groups := (List.range (cs.length / 4)).map fun i => (cs.drop (4 * i)).take 4
  let last := groups.length
  let mut out : List UInt8 := []
  for (g, i) in groups.zip (List.range last) do
    let pad := (g.filter (· == '=')).length
    let body := g.take (4 - pad)
    if pad > 2 || body.any (· == '=') || (pad > 0 && i + 1 != last) then none
    let vals ← body.mapM fun c => alphabet.idxOf? c
    let n := vals.foldl (fun acc v => acc * 64 + v) 0 * Nat.pow 64 pad
    let bytes := [(n / 65536) % 256, (n / 256) % 256, n % 256]
    out := out ++ (bytes.take (3 - pad)).map Nat.toUInt8
  return out

/-- The decoder's state: the type errors so far, the aliases being followed,
and the keys already set when merging. -/
structure DecodeState where
  errors : Array String := #[]
  following : List Nat := []
  merged : Option (List String) := none

/-- A decoding step; an error stops decoding with its message. -/
abbrev DecodeM := StateT DecodeState (Except String)

namespace Decode

variable {α : Type}

/-- Whether a node is a scalar whose tag makes it a string. -/
def isString (n : NodeInfo) : Bool := n.kind == .scalar && shortTag n.tag == strTag

/-- The effective tag of a node, following an alias to its node. -/
def shortTagOf (doc : Document) (n : NodeInfo) : String :=
  if isString n then strTag
  else if n.kind == .alias then
    match doc.anchored[n.target]? with
    | some t => if isString t.info then strTag else shortTag t.info.tag
    | none => ""
  else shortTag n.tag

/-- Whether a key node asks for a merge. -/
def isMerge (n : NodeInfo) : Bool :=
  n.kind == .scalar && n.value == "<<" && (n.tag == "" || n.tag == "!" || shortTag n.tag == mergeTag)

/-- A text cut to its first `n` bytes; a character cut in two leaves U+FFFD for each byte kept. -/
def takeBytes (s : String) (n : Nat) : String :=
  let step (acc : String × Nat) (c : Char) : String × Nat :=
    let (out, used) := acc
    if used ≥ n then acc
    else if used + c.utf8Size ≤ n then (out.push c, used + c.utf8Size)
    else (out ++ String.ofList (List.replicate (n - used) '\uFFFD'), n)
  (s.toList.foldl step ("", 0)).1

/-- Records a type error about a node. -/
def typeError (n : NodeInfo) (s : Shape α) : DecodeM Unit := do
  let tag := shortTag n.tag
  let shown :=
    if tag == seqTag || tag == mapTag then ""
    else if n.value.utf8ByteSize > 10 then " `" ++ takeBytes n.value 7 ++ "...`"
    else " `" ++ n.value ++ "`"
  let message := "line " ++ toString n.line ++ ": cannot unmarshal " ++ tag ++ shown ++ " into " ++ s.typeName
  modify fun st => { st with errors := st.errors.push message }

/-- A null: empties a list or table, and leaves anything else as it was. -/
def null (s : Shape α) (cur : Value α) : Value α × Bool :=
  match s with
  | .list _ | .table _ => (.none, true)
  | _ => (cur, false)

/-- Decodes a scalar. -/
def scalar (n : NodeInfo) (s : Shape α) (cur : Value α) : DecodeM (Value α × Bool) := do
  let (tag, resolved) ← if isString n then pure (strTag, ScalarValue.str n.value)
    else match resolve n.tag n.value with
      | .ok r => pure r
      | .error e => throw ("yaml: " ++ e)
  let (resolved, raw) ← if tag == binaryTag then
      match resolved with
      | .str t =>
        match base64Decode t with
        | some bytes =>
          let decoded := Scan.decodeBytes bytes
          pure (ScalarValue.str decoded, decoded)
        | none => throw "yaml: !!binary value contains invalid base64 data"
      | r => pure (r, n.value)
    else pure (resolved, n.value)
  if resolved == .null then return null s cur
  let bad : DecodeM (Value α × Bool) := do
    typeError n s
    return (cur, false)
  match s with
  | .text => return (.text raw, true)
  | .integer =>
    match resolved with
    | .int i => return (.integer i, true)
    | .uint u => if u < Nat.pow 2 63 then return (.integer u, true) else bad
    | .float f =>
      match f.toInt64 with
      | some i => return (.integer i, true)
      | none => bad
    | _ => bad
  | .duration =>
    match resolved with
    | .str t =>
      match parseDuration t with
      | some d => return (.duration d, true)
      | none => bad
    | _ => bad
  | .leaf _ read _ =>
    match read raw with
    | .ok a => return (.leaf a, true)
    | .error e => throw e
  | _ => bad

/-- The keys of a mapping that are strings, as a merge into it sees them. -/
def stringKeys (doc : Document) (pairs : List Node) : List String :=
  let keys := (List.range ((pairs.length + 1) / 2)).filterMap fun i => pairs[2 * i]?
  keys.filterMap fun k =>
    let i := k.info
    let i := if i.kind == .alias then ((doc.anchored[i.target]?).map Node.info).getD i else i
    if i.kind != .scalar then none
    else if isString i then some i.value
    else match resolve i.tag i.value with
      | .ok (_, .str t) => some t
      | _ => none

/-- The pairs of a mapping's children. -/
def pairsOf (content : List Node) : List (Node × Node) :=
  (List.range (content.length / 2)).filterMap fun i =>
    match content[2 * i]?, content[2 * i + 1]? with
    | some k, some v => some (k, v)
    | _, _ => none

/-- The type errors for keys given twice in a mapping. -/
def duplicateKeys (pairs : List (Node × Node)) : List String :=
  let keys := pairs.map (·.1.info)
  (List.range keys.length).flatMap fun i =>
    ((List.range keys.length).filter (· > i)).filterMap fun j =>
      match keys[i]?, keys[j]? with
      | some a, some b =>
        if a.kind == b.kind && a.value == b.value then
          some ("line " ++ toString b.line ++ ": mapping key " ++ quote b.value ++
            " already defined at line " ++ toString a.line)
        else none
      | _, _ => none

/-- The error of a merge key whose value is no mapping. -/
def mergeError {β : Type} : DecodeM β := throw "yaml: map merge requires map or sequence of maps as the value"

mutual

/-- Decodes a node into a shape, over a current value; also whether it succeeded. -/
def node (doc : Document) : Nat → Node → Shape α → Value α → DecodeM (Value α × Bool)
  | 0, _, _, _ => throw "yaml: document contains excessive aliasing"
  | fuel + 1, n, s, cur => do
    let i := n.info
    match i.kind with
    | .alias =>
      if (← get).following.contains i.serial then
        throw ("yaml: anchor '" ++ i.value ++ "' value contains itself")
      modify fun st => { st with following := i.serial :: st.following }
      let target := (doc.anchored[i.target]?).getD n
      let r ← node doc fuel target s cur
      modify fun st => { st with following := st.following.erase i.serial }
      return r
    | .scalar => scalar i s cur
    | .sequence =>
      match s with
      | .list elem =>
        let mut items : Array (Value α) := #[]
        for child in n.content do
          let (v, good) ← node doc fuel child elem elem.zero
          if good then items := items.push v
        return (.list items.toList, true)
      | _ =>
        typeError i s
        return (cur, false)
    | .mapping =>
      let pairs := pairsOf n.content
      let dups := duplicateKeys pairs
      if !dups.isEmpty then
        modify fun st => { st with errors := st.errors ++ dups.toArray }
        return (cur, false)
      match s with
      | .record name fields => record doc fuel n pairs name fields cur
      | .table elem => table doc fuel n pairs elem cur
      | _ =>
        typeError i s
        return (cur, false)

/-- Decodes a mapping into a record. -/
def record (doc : Document) : Nat → Node → List (Node × Node) → String → List (String × Shape α) →
    Value α → DecodeM (Value α × Bool)
  | 0, _, _, _, _, cur => return (cur, true)
  | fuel + 1, n, pairs, name, fields, cur => do
    let mut values := match cur with
      | .record vs => vs
      | _ => Shape.zeroFields fields
    let mut merged := (← get).merged
    modify fun st => { st with merged := Option.none }
    let mut done : List String := []
    let mut mergeNode : Option Node := Option.none
    for (k, v) in pairs do
      if isMerge k.info then
        mergeNode := some v
        continue
      let (key, good) ← node doc fuel k .text (.text "")
      if !good then continue
      let keyText := match key with
        | .text t => t
        | _ => ""
      if let some m := merged then
        if m.contains keyText then continue
        merged := some (keyText :: m)
      match fields.lookup keyText with
      | Option.none => pure ()
      | some fieldShape =>
        if done.contains keyText then
          let message := "line " ++ toString k.info.line ++ ": field " ++ keyText ++ " already set in type " ++ name
          modify fun st => { st with errors := st.errors.push message }
          continue
        done := keyText :: done
        let current := (values.lookup keyText).getD fieldShape.zero
        let (fv, _) ← node doc fuel v fieldShape current
        values := setEntry values keyText fv
    modify fun st => { st with merged := merged }
    let out : Value α := .record values
    match mergeNode with
    | Option.none => return (out, true)
    | some m => return (← merge doc fuel n m (.record name fields) out, true)

/-- Decodes a mapping into a table. -/
def table (doc : Document) : Nat → Node → List (Node × Node) → Shape α → Value α →
    DecodeM (Value α × Bool)
  | 0, _, _, _, cur => return (cur, true)
  | fuel + 1, n, pairs, elem, cur => do
    let isNew := match cur with
      | .none => true
      | _ => false
    let mut entries := match cur with
      | .table es => es
      | _ => []
    let mut merged := (← get).merged
    modify fun st => { st with merged := Option.none }
    let mut mergeNode : Option Node := Option.none
    for (k, v) in pairs do
      if isMerge k.info then
        mergeNode := some v
        continue
      let (key, good) ← node doc fuel k .text (.text "")
      if !good then continue
      let keyText := match key with
        | .text t => t
        | _ => ""
      if let some m := merged then
        if m.contains keyText then continue
        merged := some (keyText :: m)
      let (e, good) ← node doc fuel v elem elem.zero
      if good || (shortTagOf doc v.info == nullTag && (isNew || !entries.any (·.1 == keyText))) then
        entries := setEntry entries keyText e
    modify fun st => { st with merged := merged }
    let out : Value α := .table entries
    match mergeNode with
    | Option.none => return (out, true)
    | some m => return (← merge doc fuel n m (.table elem) out, true)

/-- Merges the mapping, or sequence of mappings, that a `<<` key names into a
decoded mapping; keys set before win. -/
def merge (doc : Document) : Nat → Node → Node → Shape α → Value α → DecodeM (Value α)
  | 0, _, _, _, cur => return cur
  | fuel + 1, parent, m, s, cur => do
    let before := (← get).merged
    if before.isNone then
      modify fun st => { st with merged := some (stringKeys doc parent.content) }
    let targetKind (n : Node) : NodeKind :=
      if n.info.kind == .alias then (((doc.anchored[n.info.target]?).map (·.info.kind)).getD .scalar)
      else n.info.kind
    let mut out := cur
    match m.info.kind with
    | .mapping => out := (← node doc fuel m s out).1
    | .alias =>
      if targetKind m != .mapping then mergeError
      out := (← node doc fuel m s out).1
    | .sequence =>
      for item in m.content do
        if targetKind item != .mapping then mergeError
        out := (← node doc fuel item s out).1
    | _ => mergeError
    if before.isNone then modify fun st => { st with merged := Option.none }
    return out

end

end Decode

/-- Decodes the first document of a YAML text over a current value. A text
without a document leaves the value as it is. -/
def decode {α : Type} (text : String) (s : Shape α) (cur : Value α) : Except String (Value α) := do
  match ← Document.read text with
  | Option.none => return cur
  | some doc =>
    let run := Decode.node doc (8 * text.length + 64) doc.root s cur
    match run.run {} with
    | .error e => throw e
    | .ok ((v, _), st) =>
      if st.errors.isEmpty then return v
      else throw ("yaml: unmarshal errors:\n  " ++ "\n  ".intercalate st.errors.toList)

end UpnpBind.Yaml
