/-!
# Template values

Templates are executed on values: strings, integers, booleans, lists and
records of named fields. Each record carries the name of its type, which
execution errors mention. A value is true unless it is empty or zero, and it
prints as its text: lists and records print their elements between brackets
or braces, separated by blanks.
-/

namespace UpnpBind.Template

/-- A value a template is executed on. -/
inductive Value where
  | str (s : String)
  | int (n : Int)
  | bool (b : Bool)
  /-- A list and the type name of its elements. -/
  | list (elemType : String) (items : List Value)
  /-- A record: its type name and its fields in order. -/
  | record (typeName : String) (fields : List (String × Value))
  /-- A value of a named type that prints as `shown` and is true when `truth` is. -/
  | named (typeName shown : String) (truth : Bool) (code : Int)
deriving Repr, Inhabited

namespace Value

/-- The type name of a value, as errors show it. -/
def typeName : Value → String
  | .str _ => "string"
  | .int _ => "int"
  | .bool _ => "bool"
  | .list e _ => "[]" ++ e
  | .record t _ => t
  | .named t _ _ _ => t

/-- Whether a value counts as true: not empty, not zero, not false. -/
def truth : Value → Bool
  | .str s => !s.isEmpty
  | .int n => n != 0
  | .bool b => b
  | .list _ xs => !xs.isEmpty
  | .record _ _ => true
  | .named _ _ t _ => t

/-- The field of a record by name. -/
def field? : Value → String → Option Value
  | .record _ fs, name => fs.lookup name
  | _, _ => none

/-- The text a value prints as. -/
def text : Value → String
  | .str s => s
  | .int n => toString n
  | .bool b => if b then "true" else "false"
  | .list _ xs => "[" ++ " ".intercalate (xs.attach.map fun ⟨x, _⟩ => x.text) ++ "]"
  | .record _ fs => "\x7b" ++ " ".intercalate (fs.attach.map fun ⟨(_, v), _⟩ => v.text) ++ "\x7d"
  | .named _ s _ _ => s
termination_by v => sizeOf v
decreasing_by
  all_goals simp_wf
  · have := List.sizeOf_lt_of_mem (by assumption : x ∈ xs); omega
  · have := List.sizeOf_lt_of_mem (by assumption : (_, v) ∈ fs)
    simp at this
    omega

end Value

end UpnpBind.Template
