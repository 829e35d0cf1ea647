import UpnpBind.Template.Scan

/-!
# Template trees

A template definition is a list of nodes: text, actions that print the value
of a pipeline, and the branching actions `if`, `with` and `range`, each with a
body and an optional `else` body. A pipeline may declare variables and is a
chain of commands joined by bars; a command is a list of terms: the dot,
fields, variables followed by fields, function names, strings and
parenthesized pipelines. Every term keeps the byte offset execution errors
are reported at; a chain of fields is reported at its second field.

A template file holds `define` blocks; the text outside them is not used.
-/

namespace UpnpBind.Template

/-- A term of a command. -/
inductive Term where
  | dot (pos : Nat)
  /-- A chain of fields of the dot. -/
  | field (pos : Nat) (names : List String)
  /-- A variable, then a chain of its fields. -/
  | variable (pos : Nat) (name : String) (fields : List String)
  | func (pos : Nat) (name : String)
  | str (pos : Nat) (value : String)
  /-- A parenthesized pipeline: its declared variables and its commands. -/
  | pipe (pos : Nat) (decls : List String) (cmds : List (List Term))
deriving Repr, Inhabited

/-- A pipeline: the variables it declares and its commands. -/
structure Pipe where
  pos : Nat
  decls : List String
  cmds : List (List Term)
deriving Repr, Inhabited

/-- The branching actions. -/
inductive Branch where
  | if_
  | with_
  | range
deriving Repr, DecidableEq, Inhabited

/-- A node of a template body. -/
inductive Node where
  | text (s : String)
  | action (p : Pipe)
  | branch (kind : Branch) (p : Pipe) (body elseBody : List Node)
deriving Repr, Inhabited

/-- A named template and the file it was read from, for locating errors. -/
structure Definition where
  name : String
  file : String
  source : String
  body : List Node
deriving Repr, Inhabited

/-! ## Comparing trees

Terms and nodes hold lists of themselves, for which no equality test is
derived; it is decided here constructor by constructor, so that trees can be
compared by evaluation. -/

mutual

/-- Whether two terms are equal. -/
def Term.decEq (a b : Term) : Decidable (a = b) :=
  match a, b with
  | .dot p, .dot q => decidable_of_iff (p = q) (by simp)
  | .field p ns, .field q ms => decidable_of_iff (p = q ∧ ns = ms) (by simp)
  | .variable p n fs, .variable q m gs => decidable_of_iff (p = q ∧ n = m ∧ fs = gs) (by simp)
  | .func p n, .func q m => decidable_of_iff (p = q ∧ n = m) (by simp)
  | .str p v, .str q w => decidable_of_iff (p = q ∧ v = w) (by simp)
  | .pipe p ds cs, .pipe q es bs =>
    haveI := Term.decEqCommands cs bs
    decidable_of_iff (p = q ∧ ds = es ∧ cs = bs) (by simp)
  | .dot _, .field .. | .dot _, .variable .. | .dot _, .func .. | .dot _, .str .. | .dot _, .pipe ..
  | .field .., .dot _ | .field .., .variable .. | .field .., .func .. | .field .., .str .. | .field .., .pipe ..
  | .variable .., .dot _ | .variable .., .field .. | .variable .., .func .. | .variable .., .str ..
  | .variable .., .pipe .. | .func .., .dot _ | .func .., .field .. | .func .., .variable .. | .func .., .str ..
  | .func .., .pipe .. | .str .., .dot _ | .str .., .field .. | .str .., .variable .. | .str .., .func ..
  | .str .., .pipe .. | .pipe .., .dot _ | .pipe .., .field .. | .pipe .., .variable .. | .pipe .., .func ..
  | .pipe .., .str .. => isFalse (by intro h; cases h)

/-- Whether two commands are equal. -/
def Term.decEqCommand (xs ys : List Term) : Decidable (xs = ys) :=
  match xs, ys with
  | [], [] => isTrue rfl
  | x :: xs, y :: ys =>
    haveI := Term.decEq x y
    haveI := Term.decEqCommand xs ys
    decidable_of_iff (x = y ∧ xs = ys) (by simp)
  | [], _ :: _ | _ :: _, [] => isFalse (by intro h; cases h)

/-- Whether two chains of commands are equal. -/
def Term.decEqCommands (xs ys : List (List Term)) : Decidable (xs = ys) :=
  match xs, ys with
  | [], [] => isTrue rfl
  | x :: xs, y :: ys =>
    haveI := Term.decEqCommand x y
    haveI := Term.decEqCommands xs ys
    decidable_of_iff (x = y ∧ xs = ys) (by simp)
  | [], _ :: _ | _ :: _, [] => isFalse (by intro h; cases h)

end

instance : DecidableEq Term := Term.decEq

deriving instance DecidableEq for Pipe

mutual

/-- Whether two nodes are equal. -/
def Node.decEq (a b : Node) : Decidable (a = b) :=
  match a, b with
  | .text s, .text t => decidable_of_iff (s = t) (by simp)
  | .action p, .action q => decidable_of_iff (p = q) (by simp)
  | .branch k p body els, .branch k' q body' els' =>
    haveI := Node.decEqList body body'
    haveI := Node.decEqList els els'
    decidable_of_iff (k = k' ∧ p = q ∧ body = body' ∧ els = els') (by simp)
  | .text _, .action _ | .text _, .branch .. | .action _, .text _ | .action _, .branch ..
  | .branch .., .text _ | .branch .., .action _ => isFalse (by intro h; cases h)

/-- Whether two lists of nodes are equal. -/
def Node.decEqList (xs ys : List Node) : Decidable (xs = ys) :=
  match xs, ys with
  | [], [] => isTrue rfl
  | x :: xs, y :: ys =>
    haveI := Node.decEq x y
    haveI := Node.decEqList xs ys
    decidable_of_iff (x = y ∧ xs = ys) (by simp)
  | [], _ :: _ | _ :: _, [] => isFalse (by intro h; cases h)

end

instance : DecidableEq Node := Node.decEq

deriving instance DecidableEq for Definition

/-- The text of a term as errors show it. -/
def Term.text : Term → String
  | .dot _ => "."
  | .field _ names => String.join (names.map ("." ++ ·))
  | .variable _ name fields => name ++ String.join (fields.map ("." ++ ·))
  | .func _ name => name
  | .str _ v => "\"" ++ v ++ "\""
  | .pipe _ _ _ => "(...)"

/-- The offset of a term. -/
def Term.pos : Term → Nat
  | .dot p | .field p _ | .variable p _ _ | .func p _ | .str p _ | .pipe p _ _ => p

/-! ## Parsing -/

/-- Parsing consumes items and may fail with a message. -/
abbrev Parse := StateT (List Item) (Except String)

/-- The next item, without consuming it. -/
def peek : Parse (Option Item) := do return (← get).head?

/-- Consumes the next item. -/
def advance : Parse Unit := modify List.tail

/-- Skips blanks. -/
def skipSpace : Parse Unit := modify (·.dropWhile fun | .space _ => true | _ => false)

/-- The fields directly following a term, and the offset of the first. -/
def chainFields : List Item → List String × Option Nat × List Item
  | .field p n :: rest =>
    let (names, _, rest') := chainFields rest
    (n :: names, some p, rest')
  | rest => ([], none, rest)

/-- Consumes the fields directly following a term. -/
def takeChain : Parse (List String × Option Nat) := do
  let (names, p, rest) := chainFields (← get)
  set rest
  return (names, p)

/-- How a list of nodes ended. -/
inductive Stop where
  | end_
  | else_
  | eof
deriving Repr, DecidableEq

mutual

/-- A term with the fields that follow it. -/
def parseOperand : Nat → Parse (Option Term)
  | 0 => throw "template too deep"
  | fuel + 1 => do
    match ← peek with
    | some (.dot p) =>
      advance
      let (more, _) ← takeChain
      if more.isEmpty then return some (.dot p) else throw "unexpected . after term"
    | some (.field p n) =>
      advance
      let (more, q) ← takeChain
      return some (.field (q.getD p) (n :: more))
    | some (.variable p n) =>
      advance
      let (more, q) ← takeChain
      return some (.variable (q.getD p) n more)
    | some (.ident p n) => advance; return some (.func p n)
    | some (.str p s) => advance; return some (.str p s)
    | some (.char p '(') =>
      advance
      let inner ← parsePipeline fuel true
      return some (.pipe p inner.decls inner.cmds)
    | _ => return none

/-- A command: terms separated by blanks, up to a bar, a closing parenthesis
or the end of the action. -/
def parseCommand : Nat → Parse (List Term)
  | 0 => throw "template too deep"
  | fuel + 1 => do
    skipSpace
    match ← parseOperand fuel with
    | none => return []
    | some t =>
      match ← peek with
      | some (.space _) => return t :: (← parseCommand fuel)
      | _ => return [t]

/-- The commands of a pipeline, joined by bars. -/
def parseCommands : Nat → Bool → Parse (List (List Term))
  | 0, _ => throw "template too deep"
  | fuel + 1, inParens => do
    let cmd ← parseCommand fuel
    if cmd.isEmpty then throw "missing value for command"
    skipSpace
    match ← peek with
    | some (.char _ '|') => advance; return cmd :: (← parseCommands fuel inParens)
    | some (.char _ ')') =>
      if !inParens then throw "unexpected right paren"
      advance
      return [cmd]
    | some (.close _) =>
      if inParens then throw "unclosed left paren"
      advance
      return [cmd]
    | _ => throw "unexpected item in command"

/-- A pipeline, with its variable declarations; inside parentheses it ends at
the closing parenthesis, else at the end of the action, which it consumes. -/
def parsePipeline : Nat → Bool → Parse Pipe
  | 0, _ => throw "template too deep"
  | fuel + 1, inParens => do
    skipSpace
    let pos := match ← peek with
      | some i => i.pos
      | none => 0
    let decls ← parseDecls fuel
    let cmds ← parseCommands fuel inParens
    return { pos, decls, cmds }

/-- The variables a pipeline declares: none, one, or two separated by a comma,
before the declaration sign. -/
def parseDecls : Nat → Parse (List String)
  | 0 => throw "template too deep"
  | _ + 1 => do
    let saved ← get
    skipSpace
    match ← peek with
    | some (.variable _ v) =>
      advance
      skipSpace
      match ← peek with
      | some (.declare _) => advance; return [v]
      | some (.char _ ',') =>
        advance
        skipSpace
        match ← peek with
        | some (.variable _ w) =>
          advance
          skipSpace
          match ← peek with
          | some (.declare _) => advance; return [v, w]
          | _ => throw "expected := after variables"
        | _ => throw "range can only initialize variables"
      | _ => set saved; return []
    | _ => set saved; return []

/-- Nodes up to `end`, `else` or the end of input. -/
def parseList : Nat → Parse (List Node × Stop)
  | 0 => throw "template too deep"
  | fuel + 1 => do
    match ← peek with
    | none => return ([], .eof)
    | some (.text s) =>
      advance
      let (rest, stop) ← parseList fuel
      return (.text s :: rest, stop)
    | some (.open_ _) =>
      advance
      skipSpace
      match ← peek with
      | some (.ident _ "end") =>
        advance; skipSpace
        match ← peek with
        | some (.close _) => advance; return ([], .end_)
        | _ => throw "unexpected item in end"
      | some (.ident _ "else") =>
        advance; skipSpace
        match ← peek with
        | some (.close _) => advance; return ([], .else_)
        | _ => throw "unexpected item in else"
      | some (.ident _ kw) =>
        let kind? : Option Branch :=
          if kw == "if" then some .if_ else if kw == "with" then some .with_
          else if kw == "range" then some .range else none
        match kind? with
        | some kind =>
          advance
          let p ← parsePipeline fuel false
          let (body, stop) ← parseList fuel
          let elseBody ← match stop with
            | .end_ => pure []
            | .else_ =>
              let (eb, stop') ← parseList fuel
              if stop' == .end_ then pure eb else throw "expected end"
            | .eof => throw "unexpected EOF"
          let (rest, stop'') ← parseList fuel
          return (.branch kind p body elseBody :: rest, stop'')
        | none =>
          let p ← parsePipeline fuel false
          let (rest, stop) ← parseList fuel
          return (.action p :: rest, stop)
      | _ =>
        let p ← parsePipeline fuel false
        let (rest, stop) ← parseList fuel
        return (.action p :: rest, stop)
    | some _ => throw "unexpected item"

end

/-- The definitions of a template file: each `define` block, in order. -/
def parseDefinitions (file source : String) : Nat → Parse (List Definition)
  | 0 => throw "template too deep"
  | fuel + 1 => do
    match ← peek with
    | none => return []
    | some (.text _) => advance; parseDefinitions file source fuel
    | some (.open_ _) =>
      advance
      skipSpace
      match ← peek with
      | some (.ident _ "define") =>
        advance; skipSpace
        match ← peek with
        | some (.str _ name) =>
          advance; skipSpace
          match ← peek with
          | some (.close _) =>
            advance
            let (body, stop) ← parseList fuel
            if stop != .end_ then throw "unexpected EOF in define"
            return { name, file, source, body } :: (← parseDefinitions file source fuel)
          | _ => throw "unexpected item in define"
        | _ => throw "define needs a name"
      | _ => throw "only definitions are allowed at the top level"
    | some _ => throw "unexpected item"

/-- Reads the definitions of a template file. -/
def readFile (file source : String) : Except String (List Definition) := do
  let items ← scan source
  let (defs, _) ← (parseDefinitions file source (items.length + 1)).run items
  return defs

end UpnpBind.Template
