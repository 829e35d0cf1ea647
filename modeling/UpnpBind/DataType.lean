import UpnpBind.Text.Blank
import UpnpBind.Failure

/-!
# Value types of state variables

A state variable's data type tag resolves, through a table, to one of four
value types of the generated code: boolean, unsigned, signed or text. Integer
widths collapse into one unsigned and one signed type. A tag outside the table
is an unmapped-type failure, never a guess. Codes outside 0 to 3 still name a
value type, written `Type(n)`, whose generated type is text.
-/

namespace UpnpBind

/-- A value type, by code: 0 boolean, 1 unsigned, 2 signed, 3 text, any other
code an unnamed type. -/
inductive ValueType where
  | boolean
  | unsigned
  | signed
  | text
  /-- An unnamed type; `ValueType.ofCode` builds it only for codes outside 0 to 3. -/
  | other (code : Int)
deriving Repr, DecidableEq, Inhabited

namespace ValueType

/-- The value type of a code. -/
def ofCode (n : Int) : ValueType :=
  if n = 0 then .boolean else if n = 1 then .unsigned else if n = 2 then .signed
  else if n = 3 then .text else .other n

/-- The code of a value type. -/
def code : ValueType → Int
  | .boolean => 0
  | .unsigned => 1
  | .signed => 2
  | .text => 3
  | .other n => n

/-- The name of a value type: "boolean", "unsigned", "signed", "text" or `Type(n)`. -/
def name : ValueType → String
  | .boolean => "boolean"
  | .unsigned => "unsigned"
  | .signed => "signed"
  | .text => "text"
  | .other n => "Type(" ++ toString n ++ ")"

/-- The type generated bindings use for values of this type. -/
def goType : ValueType → String
  | .boolean => "bool"
  | .unsigned => "uint32"
  | .signed => "int32"
  | _ => "string"

/-- Reads the name of one of the four named types, ignoring blanks at both ends. -/
def ofName? (s : String) : Option ValueType :=
  match Text.trimBlank s with
  | "boolean" => some .boolean
  | "unsigned" => some .unsigned
  | "signed" => some .signed
  | "text" => some .text
  | _ => none

end ValueType

/-- A table from data type tags to value types; each tag appears once. -/
structure TypeTable where
  entries : List (String × ValueType) := []
deriving Repr, DecidableEq, Inhabited

namespace TypeTable

/-- The table with `tag` mapped to `t`, replacing an earlier entry for `tag`. -/
def insert (table : TypeTable) (tag : String) (t : ValueType) : TypeTable :=
  if table.entries.any (·.1 == tag) then
    ⟨table.entries.map (fun e => if e.1 == tag then (tag, t) else e)⟩
  else ⟨table.entries ++ [(tag, t)]⟩

/-- The table of `base` with every entry of `entries` put over it. -/
def overlay (base : TypeTable) (entries : List (String × ValueType)) : TypeTable :=
  entries.foldl (fun acc e => acc.insert e.1 e.2) base

/-- The data type tags known to appear in TR-064 and IGD service descriptions. -/
def standard : TypeTable :=
  ⟨[("boolean", .boolean), ("ui1", .unsigned), ("ui2", .unsigned), ("ui4", .unsigned),
    ("i1", .signed), ("i2", .signed), ("i4", .signed), ("string", .text), ("uuid", .text),
    ("dateTime", .text)]⟩

/-- The value type of a tag, looked up without the blanks at its ends. -/
def resolve (table : TypeTable) (tag : String) : Except Failure ValueType :=
  match table.entries.find? (·.1 == Text.trimBlank tag) with
  | some e => .ok e.2
  | none => .error { kind := .unmappedType, tag := tag }

/-- The known tags in increasing order. -/
def tags (table : TypeTable) : List String :=
  (table.entries.map (·.1)).mergeSort (fun a b => decide (a ≤ b))

end TypeTable

end UpnpBind
