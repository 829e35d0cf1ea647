import UpnpBind.Template.Tree
import UpnpBind.Template.Value

/-!
# Executing templates

A definition is executed on a value, the dot. Text is copied; an action prints
the value of its pipeline unless the pipeline declares variables; `if` runs its
body when the pipeline's value is true, `with` runs it with that value as the
dot, and `range` runs it once per element with the element as the dot (and, if
declared, the element and its index in variables), each falling back to the
`else` body otherwise. Variables live until the end of the body that declares
them; `$` is the value the definition was executed on.

Execution fails at the first field the dot lacks, reported with the file,
line and byte column of the failing term:
`template: FILE:LINE:COL: executing "NAME" at <TERM>: MESSAGE`.
-/

namespace UpnpBind.Template

/-- The functions a template may call, by name. -/
abbrev Functions := String → Option (List Value → Except String Value)

/-- What execution sees besides the dot: the definition being executed and the functions. -/
structure Context where
  defn : Definition
  funcs : Functions

/-- The line and byte column of an offset in a text, the column counted from 0. -/
def location (source : String) (pos : Nat) : Nat × Nat :=
  let before := (source.toUTF8.toList.take pos)
  let lines := before.foldl (fun n b => if b == 10 then n + 1 else n) 1
  let lastLine := (before.reverse.takeWhile (· != 10)).length
  (lines, lastLine)

/-- An execution failure at a term. -/
def Context.failAt {α : Type} (c : Context) (t : Term) (msg : String) : Except String α :=
  let (line, col) := location c.defn.source t.pos
  .error ("template: " ++ c.defn.file ++ "\x3a" ++ toString line ++ "\x3a" ++ toString col ++
    ": executing \"" ++ c.defn.name ++ "\" at <" ++ t.text ++ ">: " ++ msg)

/-- Follows a chain of fields from a value; the term locates failures. -/
def Context.fields (c : Context) (t : Term) : Value → List String → Except String Value
  | v, [] => .ok v
  | v, n :: ns =>
    match v.field? n with
    | some w => c.fields t w ns
    | none => c.failAt t ("can't evaluate field " ++ n ++ " in type " ++ v.typeName)

/-- Variables in scope, the innermost first. -/
abbrev Scope := List (String × Value)

mutual

/-- The value of a term given as an argument. -/
def Context.arg (c : Context) (dot : Value) (vars : Scope) : Term → Except String Value
  | .dot _ => .ok dot
  | t@(.field _ names) => c.fields t dot names
  | t@(.variable _ name fs) =>
    match vars.lookup name with
    | some v => c.fields t v fs
    | none => c.failAt t ("undefined variable " ++ name)
  | t@(.func _ name) => c.call dot vars t name [] none
  | .str _ s => .ok (.str s)
  | .pipe _ _ cmds => c.commands dot vars cmds none
termination_by t => 4 * sizeOf t + 3

/-- Calls a function on argument terms and, from a previous command, a final value.
`and` and `or` evaluate their arguments only as far as needed. -/
def Context.call (c : Context) (dot : Value) (vars : Scope) (t : Term) (name : String)
    (args : List Term) (final : Option Value) : Except String Value :=
  if name == "or" || name == "and" then
    c.shortCircuit dot vars t (name == "or") args final
  else
    match c.funcs name with
    | none => c.failAt t ("function " ++ name ++ " not defined")
    | some f => do
      let vs ← c.args dot vars args
      match f (vs ++ final.toList) with
      | .ok v => .ok v
      | .error m => c.failAt t m
termination_by 4 * sizeOf args + 2

/-- The values of argument terms, in order. -/
def Context.args (c : Context) (dot : Value) (vars : Scope) : List Term → Except String (List Value)
  | [] => .ok []
  | a :: rest => do
    let v ← c.arg dot vars a
    return v :: (← c.args dot vars rest)
termination_by l => 4 * sizeOf l + 1

/-- `or` (when `stopOn` is true) or `and`: the first argument whose truth is
`stopOn`, else the last argument. -/
def Context.shortCircuit (c : Context) (dot : Value) (vars : Scope) (t : Term) (stopOn : Bool) :
    List Term → Option Value → Except String Value
  | [], some v => .ok v
  | [], none => c.failAt t "wrong number of args: want at least 1 got 0"
  | [a], none => c.arg dot vars a
  | a :: rest, final => do
    let v ← c.arg dot vars a
    if v.truth == stopOn then return v else c.shortCircuit dot vars t stopOn rest final
termination_by l => 4 * sizeOf l + 1

/-- The value of a command, given the value of the command before it, if any. -/
def Context.command (c : Context) (dot : Value) (vars : Scope) (cmd : List Term) (final : Option Value) :
    Except String Value :=
  match cmd with
  | [] => .error "empty command"
  | t@(.func _ name) :: args => c.call dot vars t name args final
  | t@(.field _ names) :: args => do
    if !args.isEmpty || final.isSome then c.failAt t (names.getLastD "" ++ " is not a method but has arguments")
    c.fields t dot names
  | t :: args =>
    if !args.isEmpty || final.isSome then c.failAt t ("can't give argument to non-function " ++ t.text)
    else c.arg dot vars t
termination_by 4 * sizeOf cmd + 3

/-- The value of a chain of commands, each passing its value to the next. -/
def Context.commands (c : Context) (dot : Value) (vars : Scope) :
    List (List Term) → Option Value → Except String Value
  | [], some v => .ok v
  | [], none => .error "empty pipeline"
  | cmd :: rest, final => do
    let v ← c.command dot vars cmd final
    c.commands dot vars rest (some v)
termination_by l => 4 * sizeOf l + 3

end

/-- The value of a pipeline and the variables it declares. -/
def Context.pipe (c : Context) (dot : Value) (vars : Scope) (p : Pipe) : Except String (Value × Scope) := do
  let v ← c.commands dot vars p.cmds none
  return (v, (p.decls.map fun d => (d, v)) ++ vars)

mutual

/-- The output of a list of nodes; variables declared by an action are seen by
the nodes after it. -/
def Context.run (c : Context) (dot : Value) : Scope → List Node → Except String String
  | _, [] => .ok ""
  | vars, .text s :: rest => do return s ++ (← c.run dot vars rest)
  | vars, .action p :: rest => do
    let (v, vars') ← c.pipe dot vars p
    let shown := if p.decls.isEmpty then v.text else ""
    return shown ++ (← c.run dot vars' rest)
  | vars, .branch kind p body elseBody :: rest => do
    let (v, vars') ← c.pipe dot vars p
    let out ← match kind with
      | .if_ => if v.truth then c.run dot vars' body else c.run dot vars' elseBody
      | .with_ => if v.truth then c.run v vars' body else c.run dot vars' elseBody
      | .range =>
        match v with
        | .list _ items =>
          if items.isEmpty then c.run dot vars elseBody
          else c.each p.decls vars body 0 items
        | _ => .error ("range can't iterate over " ++ v.text)
    return out ++ (← c.run dot vars rest)
termination_by _ ns => (sizeOf ns, 0)

/-- The output of a range body once per element, from index `i`. -/
def Context.each (c : Context) (decls : List String) (vars : Scope) (body : List Node) :
    Nat → List Value → Except String String
  | _, [] => .ok ""
  | i, item :: items => do
    let scope := match decls with
      | [v] => (v, item) :: vars
      | [k, v] => (v, item) :: (k, Value.int i) :: vars
      | _ => vars
    let out ← c.run item scope body
    return out ++ (← c.each decls vars body (i + 1) items)
termination_by _ items => (sizeOf body, items.length + 1)

end

/-- Executes a definition on a value with a set of functions. -/
def Definition.execute (d : Definition) (funcs : Functions) (data : Value) : Except String String :=
  (Context.mk d funcs).run data [("$", data)] d.body

end UpnpBind.Template
