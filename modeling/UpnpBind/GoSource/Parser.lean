import UpnpBind.GoSource.ParseState

/-!
# Parsing Go source

A recursive-descent parser for Go source files, with the recovery needed to
report errors the way the reference toolchain does: after an unexpected token
it reports what was expected and skips ahead to a token that can end an
expression or start a statement or declaration. A file whose package clause
is broken is not parsed further.

Every parsing function takes fuel bounding its depth of recursion; running
out stops parsing as if there were too many errors.
-/

namespace UpnpBind.GoSource

open P

/-- The current token. -/
def curTok : P Tok := do return (← get).tok

/-- The position of the current token. -/
def curPos : P Pos := do return (← get).pos

/-- The last position of the file. -/
def safePos (p : Pos) : P Pos := do
  let size := (← get).scanner.src.size
  return if p > size + 1 then size + 1 else p

/-- An identifier; `_` with a complaint when the token is another. -/
def parseIdent : P Ident := do
  let s ← get
  if s.tok == .ident then
    next
    return ⟨s.pos, s.lit⟩
  else
    discard <| expect .ident
    return ⟨s.pos, "_"⟩

/-- Identifiers separated by commas. -/
def parseIdentList : Nat → P (List Ident)
  | 0 => giveUp
  | n + 1 => do
    let i ← parseIdent
    if (← curTok) == .comma then
      next
      return i :: (← parseIdentList n)
    else return [i]

/-- An index expression of one index, or of a list of them. -/
def packIndex (x : Expr) (lbrack : Pos) (args : List Expr) (rbrack : Pos) : Expr :=
  match args with
  | [a] => .index x lbrack a rbrack
  | _ => .indexList x lbrack args rbrack

/-- An expression without its parentheses. -/
def unparen : Expr → Expr
  | .paren _ x _ => unparen x
  | x => x

/-- Whether an expression can only be a type element. -/
def isTypeElem : Expr → Bool
  | .arrayType .. | .structType .. | .funcType .. | .interfaceType .. | .mapType .. | .chanType .. => true
  | .binary x _ _ y => isTypeElem x || isTypeElem y
  | .unary _ op _ => op == .tilde
  | .paren _ x _ => isTypeElem x
  | _ => false

/-- Splits `name expr` where the expression is a type element (or `force` is set). -/
def extractName (x : Expr) (force : Bool) : Option Ident × Option Expr :=
  match x with
  | .ident i => (some i, none)
  | .binary (.ident name) opPos (.op "*") y =>
    if force || isTypeElem y then (some name, some (.star opPos y)) else (none, some x)
  | .binary lhs opPos (.op "|") y =>
    match extractName lhs (force || isTypeElem y) with
    | (some name, some l) => (some name, some (.binary l opPos (.op "|") y))
    | _ => (none, some x)
  | .call (.ident name) lparen [arg] 0 rparen =>
    if force || isTypeElem arg then (some name, some (.paren lparen arg rparen)) else (none, some x)
  | _ => (none, some x)

/-- The expression of a statement that must be one, else a complaint. -/
def makeExpr (s : Option Stmt) (want : String) : P (Option Expr) := do
  match s with
  | none => return none
  | some (.expr x) => return some x
  | some st =>
    let found := match st with
      | .assign .. => "assignment"
      | _ => "simple statement"
    error st.pos ("expected " ++ want ++ ", found " ++ found ++ " (missing parentheses around composite literal?)")
    return some (.bad st.pos (← safePos st.end_))

/-- Whether an expression is `x.(type)`. -/
def isTypeSwitchAssert : Expr → Bool
  | .typeAssert _ _ none _ => true
  | _ => false

/-- Whether a statement is a type switch guard; `v = x.(type)` counts, with a complaint. -/
def isTypeSwitchGuard (s : Option Stmt) : P Bool := do
  match s with
  | some (.expr x) => return isTypeSwitchAssert x
  | some (.assign [_] tokPos tok [r]) =>
    if isTypeSwitchAssert r then
      if tok == .assign then
        error tokPos "expected '\x3a=', found '='"
        return true
      return tok == .define
    return false
  | _ => return false

/-- A parameter being read: its name, its type, and which parameter the type was written for. -/
structure Param where
  name : Option Ident
  type : Option Expr
  typeOwner : Nat
deriving Inhabited

/-- Gives nameless types of an all-unnamed list their own fields; groups named
parameters that share a written type into one field. -/
def groupParams (list : List Param) (named : Nat) : List Field :=
  if named == 0 then
    list.filterMap fun p => (p.type.map fun t => Field.mk none [] t none none)
  else
    let rec go : List Param → Option Nat → List Ident → Option Expr → List Field
      | [], _, names, typ =>
        match typ with
        | some t => if names.isEmpty then [] else [Field.mk none names.reverse t none none]
        | none => []
      | p :: ps, owner, names, typ =>
        if owner != some p.typeOwner then
          let done := match typ with
            | some t => if names.isEmpty then [] else [Field.mk none names.reverse t none none]
            | none => []
          done ++ go ps (some p.typeOwner) (p.name.toList) p.type
        else go ps owner (p.name.toList ++ names) typ
    go list none [] none

/-- A type name, possibly qualified by a package. -/
def parseTypeName (ident : Option Ident) : P Expr := do
    let i ← match ident with
      | some i => pure i
      | none => parseIdent
    if (← curTok) == .period then
      next
      let sel ← parseIdent
      return .selector (.ident i) sel
    return .ident i

/-- An import specification. -/
def parseImportSpec (doc : Option CommentGroup) : P Spec := do
    let s ← get
    let ident ← match s.tok with
      | .ident => some <$> parseIdent
      | .op "." => do next; pure (some ⟨s.pos, "."⟩)
      | _ => pure none
    let s ← get
    let path ← if s.tok == .string then do next; pure s.lit
      else if s.tok.isLiteral then do error s.pos "import path must be a string"; next; pure ""
      else do error s.pos "missing import path"; advance exprEnd; pure ""
    let comment ← expectSemi
    return .import_ doc ident ⟨s.pos, .string, path⟩ comment 0

mutual

/-- A type; a complaint and a bad expression when there is none. -/
def parseType : Nat → P Expr
  | 0 => giveUp
  | n + 1 => do
    match ← tryIdentOrType n with
    | some t => return t
    | none =>
      let pos ← curPos
      errorExpected pos "type"
      advance exprEnd
      return .bad pos (← curPos)
termination_by structural f => f

/-- A type name with optional type arguments. -/
def parseQualifiedIdent : Nat → Option Ident → P Expr
  | 0, _ => giveUp
  | n + 1, ident => do
    let t ← parseTypeName ident
    if (← curTok) == .lbrack then parseTypeInstance n t else return t
termination_by structural f _ => f

/-- Type arguments of a type. -/
def parseTypeInstance : Nat → Expr → P Expr
  | 0, _ => giveUp
  | n + 1, typ => do
    let opening ← expect .lbrack
    modify fun s => { s with exprLev := s.exprLev + 1 }
    let list ← parseTypeArgs n
    modify fun s => { s with exprLev := s.exprLev - 1 }
    let closing ← expectClosing .rbrack "type argument list"
    if list.isEmpty then
      errorExpected closing "type argument list"
      return .index typ opening (.bad (opening + 1) closing) closing
    return packIndex typ opening list closing
termination_by structural f _ => f

/-- Types separated by commas, up to a closing bracket. -/
def parseTypeArgs : Nat → P (List Expr)
  | 0 => giveUp
  | n + 1 => do
    let t ← curTok
    if t == .rbrack || t == .eof then return []
    let x ← parseType n
    if !(← atComma "type argument list" .rbrack) then return [x]
    next
    return x :: (← parseTypeArgs n)
termination_by structural f => f

/-- The rest of an array or slice type after its opening bracket. -/
def parseArrayType : Nat → Pos → Option Expr → P Expr
  | 0, _, _ => giveUp
  | n + 1, lbrack, len => do
    let len ← match len with
      | some l => pure (some l)
      | none => do
        modify fun s => { s with exprLev := s.exprLev + 1 }
        let t ← curTok
        let l ← if t == .ellipsis then do
            let p ← curPos
            next
            pure (some (Expr.ellipsis p none))
          else if t != .rbrack then some <$> parseRhs n
          else pure none
        modify fun s => { s with exprLev := s.exprLev - 1 }
        pure l
    if (← curTok) == .comma then
      error (← curPos) "unexpected comma; expecting ]"
      next
    discard <| expect .rbrack
    let elt ← parseType n
    return .arrayType lbrack len elt
termination_by structural f _ _ => f

/-- Expressions separated by commas inside brackets; also the position of a trailing comma. -/
def parseBracketArgs : Nat → P (List Expr × Pos)
  | 0 => giveUp
  | n + 1 => do
    let x ← parseRhs n
    if (← curTok) == .comma then
      let comma ← curPos
      next
      if (← curTok) == .rbrack then return ([x], comma)
      let (rest, tc) ← parseBracketArgs n
      return (x :: rest, tc)
    return ([x], 0)
termination_by structural f => f

/-- After a name and an opening bracket: an array field or a type instance. -/
def parseArrayFieldOrTypeInstance : Nat → Ident → P (Option Ident × Expr)
  | 0, _ => giveUp
  | n + 1, x => do
    let lbrack ← expect .lbrack
    let (args, trailingComma) ← if (← curTok) != .rbrack then do
        modify fun s => { s with exprLev := s.exprLev + 1 }
        let r ← parseBracketArgs n
        modify fun s => { s with exprLev := s.exprLev - 1 }
        pure r
      else pure ([], 0)
    let rbrack ← expect .rbrack
    match args with
    | [] =>
      let elt ← parseType n
      return (some x, .arrayType lbrack none elt)
    | [a] =>
      match ← tryIdentOrType n with
      | some elt =>
        if trailingComma != 0 then error trailingComma "unexpected comma; expecting ]"
        return (some x, .arrayType lbrack (some a) elt)
      | none => return (none, packIndex (.ident x) lbrack args rbrack)
    | _ => return (none, packIndex (.ident x) lbrack args rbrack)
termination_by structural f _ => f

/-- A field of a struct type. -/
def parseFieldDecl : Nat → P Field
  | 0 => giveUp
  | n + 1 => do
    let doc := (← get).leadComment
    let (names, typ) ← match ← curTok with
      | .ident => do
        let name ← parseIdent
        let t ← curTok
        if t == .period || t == .string || t == .semicolon || t == .rbrace then
          let typ ← if t == .period then parseQualifiedIdent n (some name) else pure (.ident name)
          pure ([], typ)
        else
          let more ← if t == .comma then do next; parseIdentList n else pure []
          let names := name :: more
          if names.length == 1 && (← curTok) == .lbrack then
            let (nm, typ) ← parseArrayFieldOrTypeInstance n name
            pure (nm.toList, typ)
          else
            let typ ← parseType n
            pure (names, typ)
      | .op "*" => do
        let star ← curPos
        next
        let typ ← if (← curTok) == .lparen then do
            error (← curPos) "cannot parenthesize embedded type"
            next
            let t ← parseQualifiedIdent n none
            if (← curTok) == .rparen then next
            pure t
          else parseQualifiedIdent n none
        pure ([], Expr.star star typ)
      | .op "(" => do
        error (← curPos) "cannot parenthesize embedded type"
        next
        let typ ← if (← curTok) == .mul then do
            let star ← curPos
            next
            pure (Expr.star star (← parseQualifiedIdent n none))
          else parseQualifiedIdent n none
        if (← curTok) == .rparen then next
        pure ([], typ)
      | _ => do
        let pos ← curPos
        errorExpected pos "field name or embedded type"
        advance exprEnd
        pure ([], Expr.bad pos (← curPos))
    let s ← get
    let tag ← if s.tok == .string then do next; pure (some (BasicLit.mk s.pos s.tok s.lit)) else pure none
    let comment ← expectSemi
    return .mk doc names typ tag comment
termination_by structural f => f

/-- The fields of a struct type. -/
def parseFieldDecls : Nat → P (List Field)
  | 0 => giveUp
  | n + 1 => do
    let t ← curTok
    if t == .ident || t == .mul || t == .lparen then
      let f ← parseFieldDecl n
      return f :: (← parseFieldDecls n)
    return []
termination_by structural f => f

/-- A struct type. -/
def parseStructType : Nat → P Expr
  | 0 => giveUp
  | n + 1 => do
    let pos ← expect (.kw "struct")
    let lbrace ← expect .lbrace
    let list ← parseFieldDecls n
    let rbrace ← expect .rbrace
    return .structType pos (.mk lbrace list rbrace) false
termination_by structural f => f

/-- A pointer type. -/
def parsePointerType : Nat → P Expr
  | 0 => giveUp
  | n + 1 => do
    let star ← expect .mul
    return .star star (← parseType n)
termination_by structural f => f

/-- A variadic parameter type. -/
def parseDotsType : Nat → P Expr
  | 0 => giveUp
  | n + 1 => do
    let pos ← expect .ellipsis
    return .ellipsis pos (some (← parseType n))
termination_by structural f => f

/-- One parameter: a name, a type, or both. -/
def parseParamDecl : Nat → Option Ident → Bool → P (Option Ident × Option Expr)
  | 0, _, _ => giveUp
  | n + 1, name0, typeSetsOK => do
    let t ← curTok
    if name0.isNone && typeSetsOK && t == .tilde then
      return (none, some (← embeddedElem n none))
    let identCase := name0.isSome || t == .ident
    let (name, typ, done) ← if identCase then do
        let name ← match name0 with
          | some nm => pure nm
          | none => parseIdent
        match ← curTok with
        | .ident | .op "*" | .op "<-" | .kw "func" | .kw "chan" | .kw "map" | .kw "struct"
        | .kw "interface" | .op "(" =>
          pure (some name, some (← parseType n), false)
        | .op "[" =>
          let (nm, typ) ← parseArrayFieldOrTypeInstance n name
          pure (nm, some typ, false)
        | .op "..." => pure (some name, some (← parseDotsType n), true)
        | .op "." => pure (none, some (← parseQualifiedIdent n (some name)), false)
        | .op "~" =>
          if typeSetsOK then pure (some name, some (← embeddedElem n none), true)
          else pure (some name, none, false)
        | .op "|" =>
          if typeSetsOK then pure (none, some (← embeddedElem n (some (.ident name))), true)
          else pure (some name, none, false)
        | _ => pure (some name, none, false)
      else
        match t with
        | .op "*" | .op "<-" | .kw "func" | .op "[" | .kw "chan" | .kw "map" | .kw "struct"
        | .kw "interface" | .op "(" => pure (none, some (← parseType n), false)
        | .op "..." => pure (none, some (← parseDotsType n), true)
        | _ => do
          errorExpected (← curPos) "')'"
          advance exprEnd
          pure (none, none, false)
    if done then return (name, typ)
    match typ with
    | some ty =>
      if typeSetsOK && (← curTok) == .op "|" then return (name, some (← embeddedElem n (some ty)))
      return (name, typ)
    | none => return (name, typ)
termination_by structural f _ _ => f

/-- The parameters of a list, up to its closing token; each with the index of
the parameter whose type it was written with. -/
def parseParamEntries : Nat → Option Ident → Option Expr → Tok → Bool → Nat → P (List Param)
  | 0, _, _, _, _, _ => giveUp
  | n + 1, name0, typ0, closing, tparams, idx => do
    let t ← curTok
    if name0.isNone && (t == closing || t == .eof) then return []
    let (name, typ) ← match typ0 with
      | some ty => do
        let ty ← if tparams then embeddedElem n (some ty) else pure ty
        pure (name0, some ty)
      | none => parseParamDecl n name0 tparams
    let entry : List Param := if name.isSome || typ.isSome then [⟨name, typ, idx⟩] else []
    let idx' := idx + entry.length
    if !(← atComma "parameter list" closing) then return entry
    next
    return entry ++ (← parseParamEntries n none none closing tparams idx')
termination_by structural f _ _ _ _ _ => f

/-- A parameter list, with its errors for mixed or missing names. -/
def parseParameterList : Nat → Option Ident → Option Expr → Tok → P (List Field)
  | 0, _, _, _ => giveUp
  | n + 1, name0, typ0, closing => do
    let tparams := closing == .rbrack
    let pos0 ← match name0, typ0 with
      | some nm, _ => pure nm.pos
      | none, some ty => pure ty.pos
      | none, none => curPos
    let list ← parseParamEntries n name0 typ0 closing tparams 0
    if list.isEmpty then return []
    let named := (list.filter fun p => p.name.isSome && p.type.isSome).length
    let typed := (list.filter fun p => p.type.isSome).length
    if named == 0 then
      let list := list.map fun p => match p.name with
        | some nm => { p with name := none, type := some (.ident nm) }
        | none => p
      if tparams then
        if named == typed then error (← curPos) "missing type constraint"
        else error pos0 ("missing type parameter name" ++ (if list.length == 1 then " or invalid array length" else ""))
      return groupParams list 0
    else if named != list.length then
      -- distribute types from right to left
      let here ← curPos
      let (fixed, _, errPos) := list.foldr (fun p (acc, typ, errPos) =>
        match p.type with
        | some t =>
          match p.name with
          | some _ => (p :: acc, some (t, p.typeOwner), errPos)
          | none => ({ p with name := some ⟨t.pos, "_"⟩ } :: acc, some (t, p.typeOwner), t.pos)
        | none =>
          match typ with
          | some (t, owner) => ({ p with type := some t, typeOwner := owner } :: acc, typ, errPos)
          | none =>
            let ep := (p.name.map Ident.pos).getD 0
            ({ p with type := some (.bad ep here) } :: acc, typ, ep)) ([], none, 0)
      if errPos != 0 then
        error errPos (if tparams then "type parameters must be named" else "mixed named and unnamed parameters")
      return groupParams fixed named
    else return groupParams list named
termination_by structural f _ _ _ => f

/-- Type parameters (when accepted) and parameters of a signature. -/
def parseParameters : Nat → Bool → P (Option FieldList × FieldList)
  | 0, _ => giveUp
  | n + 1, acceptTParams => do
    let tparams ← if acceptTParams && (← curTok) == .lbrack then do
        let opening ← curPos
        next
        let list ← parseParameterList n none none .rbrack
        let rbrack ← expect .rbrack
        let fl := FieldList.mk opening list rbrack
        if fl.numFields == 0 then
          error rbrack "empty type parameter list"
          pure none
        else pure (some fl)
      else pure none
    let opening ← expect .lparen
    let fields ← if (← curTok) != .rparen then parseParameterList n none none .rparen else pure []
    let rparen ← expect .rparen
    return (tparams, .mk opening fields rparen)
termination_by structural f _ => f

/-- The results of a signature, if any. -/
def parseResult : Nat → P (Option FieldList)
  | 0 => giveUp
  | n + 1 => do
    if (← curTok) == .lparen then
      let (_, r) ← parseParameters n false
      return some r
    match ← tryIdentOrType n with
    | some t => return some (.mk 0 [.mk none [] t none none] 0)
    | none => return none
termination_by structural f => f

/-- A function type. -/
def parseFuncType : Nat → P Expr
  | 0 => giveUp
  | n + 1 => do
    let pos ← expect (.kw "func")
    let (tparams, params) ← parseParameters n true
    if let some tp := tparams then error tp.pos "function type must have no type parameters"
    let results ← parseResult n
    return .funcType pos none params results
termination_by structural f => f

/-- A union of type terms. -/
def embeddedElem : Nat → Option Expr → P Expr
  | 0, _ => giveUp
  | n + 1, x => do
    let x ← match x with
      | some x => pure x
      | none => embeddedTerm n
    if (← curTok) == .op "|" then
      let opPos ← curPos
      next
      let y ← embeddedTerm n
      embeddedElem n (some (.binary x opPos (.op "|") y))
    else return x
termination_by structural f _ => f

/-- A type term, possibly `~T`. -/
def embeddedTerm : Nat → P Expr
  | 0 => giveUp
  | n + 1 => do
    if (← curTok) == .tilde then
      let pos ← curPos
      next
      return .unary pos .tilde (← parseType n)
    match ← tryIdentOrType n with
    | some t => return t
    | none =>
      let pos ← curPos
      errorExpected pos "~ term or type"
      advance exprEnd
      return .bad pos (← curPos)
termination_by structural f => f

/-- A method or embedded element of an interface type. -/
def parseMethodSpec : Nat → P Field
  | 0 => giveUp
  | n + 1 => do
    let doc := (← get).leadComment
    let x ← parseTypeName none
    match x with
    | .ident ident =>
      match ← curTok with
      | .op "[" =>
        let lbrack ← curPos
        next
        modify fun s => { s with exprLev := s.exprLev + 1 }
        let x ← parseExpr n
        modify fun s => { s with exprLev := s.exprLev - 1 }
        let t ← curTok
        match x with
        | .ident name0 =>
          if t != .comma && t != .rbrack then
            discard <| parseParameterList n (some name0) none .rbrack
            discard <| expect .rbrack
            error lbrack "interface method must have no type parameters"
            let (_, params) ← parseParameters n false
            let results ← parseResult n
            return .mk doc [ident] (.funcType 0 none params results) none none
          else
            let typ ← parseMethodInstance n ident lbrack x
            return .mk doc [] typ none none
        | _ =>
          let typ ← parseMethodInstance n ident lbrack x
          return .mk doc [] typ none none
      | .op "(" =>
        let (_, params) ← parseParameters n false
        let results ← parseResult n
        return .mk doc [ident] (.funcType 0 none params results) none none
      | _ => return .mk doc [] x none none
    | _ =>
      let typ ← if (← curTok) == .lbrack then parseTypeInstance n x else pure x
      return .mk doc [] typ none none
termination_by structural f => f

/-- The rest of an embedded instantiated type in an interface. -/
def parseMethodInstance : Nat → Ident → Pos → Expr → P Expr
  | 0, _, _, _ => giveUp
  | n + 1, ident, lbrack, x => do
    let more ← if ← atComma "type argument list" .rbrack then do
        modify fun s => { s with exprLev := s.exprLev + 1 }
        next
        let l ← parseTypeArgs n
        modify fun s => { s with exprLev := s.exprLev - 1 }
        pure l
      else pure []
    let rbrack ← expectClosing .rbrack "type argument list"
    return packIndex (.ident ident) lbrack (x :: more) rbrack
termination_by structural f _ _ _ => f

/-- The elements of an interface type. -/
def parseInterfaceElems : Nat → P (List Field)
  | 0 => giveUp
  | n + 1 => do
    match ← curTok with
    | .ident =>
      let f ← parseMethodSpec n
      let f ← match f with
        | .mk doc [] t tag c => do pure (Field.mk doc [] (← embeddedElem n (some t)) tag c)
        | f => pure f
      let comment ← expectSemi
      let f := match f with
        | .mk doc names t tag _ => Field.mk doc names t tag comment
      return f :: (← parseInterfaceElems n)
    | .op "~" =>
      let typ ← embeddedElem n none
      let comment ← expectSemi
      return .mk none [] typ none comment :: (← parseInterfaceElems n)
    | _ =>
      match ← tryIdentOrType n with
      | some t =>
        let typ ← embeddedElem n (some t)
        let comment ← expectSemi
        return .mk none [] typ none comment :: (← parseInterfaceElems n)
      | none => return []
termination_by structural f => f

/-- An interface type. -/
def parseInterfaceType : Nat → P Expr
  | 0 => giveUp
  | n + 1 => do
    let pos ← expect (.kw "interface")
    let lbrace ← expect .lbrace
    let list ← parseInterfaceElems n
    let rbrace ← expect .rbrace
    return .interfaceType pos (.mk lbrace list rbrace) false
termination_by structural f => f

/-- A map type. -/
def parseMapType : Nat → P Expr
  | 0 => giveUp
  | n + 1 => do
    let pos ← expect (.kw "map")
    discard <| expect .lbrack
    let key ← parseType n
    discard <| expect .rbrack
    let value ← parseType n
    return .mapType pos key value
termination_by structural f => f

/-- A channel type. -/
def parseChanType : Nat → P Expr
  | 0 => giveUp
  | n + 1 => do
    let pos ← curPos
    let (arrow, dir) ← if (← curTok) == .kw "chan" then do
        next
        if (← curTok) == .arrow then
          let a ← curPos
          next
          pure (a, ChanDir.send)
        else pure (0, ChanDir.both)
      else do
        let a ← expect .arrow
        discard <| expect (.kw "chan")
        pure (a, ChanDir.recv)
    let value ← parseType n
    return .chanType pos arrow dir value
termination_by structural f => f

/-- A type, if one starts here. -/
def tryIdentOrType : Nat → P (Option Expr)
  | 0 => giveUp
  | n + 1 => do
    match ← curTok with
    | .ident =>
      let t ← parseTypeName none
      if (← curTok) == .lbrack then return some (← parseTypeInstance n t)
      return some t
    | .op "[" =>
      let lbrack ← expect .lbrack
      return some (← parseArrayType n lbrack none)
    | .kw "struct" => return some (← parseStructType n)
    | .op "*" => return some (← parsePointerType n)
    | .kw "func" => return some (← parseFuncType n)
    | .kw "interface" => return some (← parseInterfaceType n)
    | .kw "map" => return some (← parseMapType n)
    | .kw "chan" | .op "<-" => return some (← parseChanType n)
    | .op "(" =>
      let lparen ← curPos
      next
      let t ← parseType n
      let rparen ← expect .rparen
      return some (.paren lparen t rparen)
    | _ => return none

-- Expressions
termination_by structural f => f

/-- A function type, or a function literal when a body follows. -/
def parseFuncTypeOrLit : Nat → P Expr
  | 0 => giveUp
  | n + 1 => do
    let typ ← parseFuncType n
    if (← curTok) != .lbrace then return typ
    modify fun s => { s with exprLev := s.exprLev + 1 }
    let body ← parseBody n
    modify fun s => { s with exprLev := s.exprLev - 1 }
    return .funcLit typ body
termination_by structural f => f

/-- An operand: a name, a literal, a parenthesized expression, a function, or a type. -/
def parseOperand : Nat → P Expr
  | 0 => giveUp
  | n + 1 => do
    let s ← get
    match s.tok with
    | .ident => return .ident (← parseIdent)
    | .int | .float | .imag | .char | .string =>
      next
      return .basicLit ⟨s.pos, s.tok, s.lit⟩
    | .op "(" =>
      next
      modify fun s => { s with exprLev := s.exprLev + 1 }
      let x ← parseRhs n
      modify fun s => { s with exprLev := s.exprLev - 1 }
      let rparen ← expect .rparen
      return .paren s.pos x rparen
    | .kw "func" => parseFuncTypeOrLit n
    | _ =>
      match ← tryIdentOrType n with
      | some t => return t
      | none =>
        let pos ← curPos
        errorExpected pos "operand"
        advance stmtStart
        return .bad pos (← curPos)
termination_by structural f => f

/-- A type assertion after its dot. -/
def parseTypeAssertion : Nat → Expr → P Expr
  | 0, _ => giveUp
  | n + 1, x => do
    let lparen ← expect .lparen
    let typ ← if (← curTok) == .kw "type" then do next; pure none else some <$> parseType n
    let rparen ← expect .rparen
    return .typeAssert x lparen typ rparen
termination_by structural f _ => f

/-- The colons and indices of a slice expression. -/
def parseSliceParts : Nat → Nat → List Pos → List (Option Expr) → P (List Pos × List (Option Expr))
  | 0, _, _, _ => giveUp
  | n + 1, ncolons, colons, idx => do
    if (← curTok) == .colon && ncolons < 2 then
      let c ← curPos
      next
      let t ← curTok
      let x ← if t != .colon && t != .rbrack && t != .eof then some <$> parseRhs n else pure none
      parseSliceParts n (ncolons + 1) (colons ++ [c]) (idx ++ [x])
    else return (colons, idx)
termination_by structural f _ _ _ => f

/-- Type arguments after the first, in an instance expression. -/
def parseInstanceArgs : Nat → P (List Expr)
  | 0 => giveUp
  | n + 1 => do
    if (← curTok) == .comma then
      next
      let t ← curTok
      if t != .rbrack && t != .eof then
        let x ← parseType n
        return x :: (← parseInstanceArgs n)
      return (← parseInstanceArgs n)
    return []
termination_by structural f => f

/-- An index, slice or instance expression after its operand. -/
def parseIndexOrSliceOrInstance : Nat → Expr → P Expr
  | 0, _ => giveUp
  | n + 1, x => do
    let lbrack ← expect .lbrack
    if (← curTok) == .rbrack then
      errorExpected (← curPos) "operand"
      let rbrack ← curPos
      next
      return .index x lbrack (.bad rbrack rbrack) rbrack
    modify fun s => { s with exprLev := s.exprLev + 1 }
    let index0 ← if (← curTok) != .colon then some <$> parseRhs n else pure none
    let (colons, idx, args) ← match ← curTok with
      | .op "\x3a" => do
        let (cs, is) ← parseSliceParts n 0 [] []
        pure (cs, is, [])
      | .op "," => do
        let more ← parseInstanceArgs n
        pure ([], [], index0.toList ++ more)
      | _ => pure ([], [], [])
    modify fun s => { s with exprLev := s.exprLev - 1 }
    let rbrack ← expect .rbrack
    if !colons.isEmpty then
      let high := idx.getD 0 none
      let max := idx.getD 1 none
      if colons.length == 2 then
        let c0 := colons.getD 0 0
        let c1 := colons.getD 1 0
        let high ← match high with
          | some h => pure h
          | none => do
            error c0 "middle index required in 3-index slice"
            pure (Expr.bad (c0 + 1) c1)
        let max ← match max with
          | some m => pure m
          | none => do
            error c1 "final index required in 3-index slice"
            pure (Expr.bad (c1 + 1) rbrack)
        return .slice x lbrack index0 (some high) (some max) true rbrack
      return .slice x lbrack index0 high none false rbrack
    if args.isEmpty then
      return .index x lbrack (index0.getD (.bad lbrack lbrack)) rbrack
    return packIndex x lbrack args rbrack
termination_by structural f _ => f

/-- The arguments of a call, with the position of a final `...`. -/
def parseCallArgs : Nat → P (List Expr × Pos)
  | 0 => giveUp
  | n + 1 => do
    let t ← curTok
    if t == .rparen || t == .eof then return ([], 0)
    let x ← parseRhs n
    let ell ← if (← curTok) == .ellipsis then do let p ← curPos; next; pure p else pure 0
    if !(← atComma "argument list" .rparen) then return ([x], ell)
    next
    if ell != 0 then return ([x], ell)
    let (rest, e) ← parseCallArgs n
    return (x :: rest, e)
termination_by structural f => f

/-- A call or conversion after its function. -/
def parseCallOrConversion : Nat → Expr → P Expr
  | 0, _ => giveUp
  | n + 1, fn => do
    let lparen ← expect .lparen
    modify fun s => { s with exprLev := s.exprLev + 1 }
    let (args, ell) ← parseCallArgs n
    modify fun s => { s with exprLev := s.exprLev - 1 }
    let rparen ← expectClosing .rparen "argument list"
    return .call fn lparen args ell rparen
termination_by structural f _ => f

/-- An element value: a nested literal value or an expression. -/
def parseValue : Nat → P Expr
  | 0 => giveUp
  | n + 1 => do
    if (← curTok) == .lbrace then parseLiteralValue n none else parseExpr n
termination_by structural f => f

/-- An element, possibly keyed. -/
def parseElement : Nat → P Expr
  | 0 => giveUp
  | n + 1 => do
    let x ← parseValue n
    if (← curTok) == .colon then
      let colon ← curPos
      next
      return .keyValue x colon (← parseValue n)
    return x
termination_by structural f => f

/-- The elements of a literal value. -/
def parseElementList : Nat → P (List Expr)
  | 0 => giveUp
  | n + 1 => do
    let t ← curTok
    if t == .rbrace || t == .eof then return []
    let x ← parseElement n
    if !(← atComma "composite literal" .rbrace) then return [x]
    next
    return x :: (← parseElementList n)
termination_by structural f => f

/-- A literal value in braces, of an optional type. -/
def parseLiteralValue : Nat → Option Expr → P Expr
  | 0, _ => giveUp
  | n + 1, typ => do
    let lbrace ← expect .lbrace
    modify fun s => { s with exprLev := s.exprLev + 1 }
    let elts ← if (← curTok) != .rbrace then parseElementList n else pure []
    modify fun s => { s with exprLev := s.exprLev - 1 }
    let rbrace ← expectClosing .rbrace "composite literal"
    return .compositeLit typ lbrace elts rbrace false
termination_by structural f _ => f

/-- Selectors, indices, calls and literal values following an operand. -/
def parsePrimaryRest : Nat → Expr → P Expr
  | 0, _ => giveUp
  | n + 1, x => do
    match ← curTok with
    | .op "." =>
      next
      match ← curTok with
      | .ident => parsePrimaryRest n (.selector x (← parseIdent))
      | .op "(" => parsePrimaryRest n (← parseTypeAssertion n x)
      | _ =>
        let pos ← curPos
        errorExpected pos "selector or type assertion"
        if (← curTok) != .rbrace then next
        parsePrimaryRest n (.selector x ⟨pos, "_"⟩)
    | .op "[" => parsePrimaryRest n (← parseIndexOrSliceOrInstance n x)
    | .op "(" => parsePrimaryRest n (← parseCallOrConversion n x)
    | .op "\x7b" =>
      let t := unparen x
      let lev := (← get).exprLev
      let isLit ← match t with
        | .bad .. | .ident _ | .selector .. | .index .. | .indexList .. => pure (decide (lev ≥ 0))
        | .arrayType .. | .structType .. | .mapType .. => pure true
        | _ => pure false
      if !isLit then return x
      match x with
      | .paren .. => error t.pos "cannot parenthesize type in composite literal"
      | _ => pure ()
      parsePrimaryRest n (← parseLiteralValue n (some x))
    | _ => return x
termination_by structural f _ => f

/-- A primary expression, from a given operand or a new one. -/
def parsePrimaryExpr : Nat → Option Expr → P Expr
  | 0, _ => giveUp
  | n + 1, x => do
    let x ← match x with
      | some x => pure x
      | none => parseOperand n
    parsePrimaryRest n x
termination_by structural f _ => f

/-- Moves the receive arrow of `<-chan` types to the channel types it belongs to. -/
def reassociate : Nat → Pos → Expr → P (Expr × ChanDir × Pos)
  | 0, _, _ => giveUp
  | n + 1, arrow, t => do
    match t with
    | .chanType _ tArrow tDir value =>
      if tDir == .recv then errorExpected tArrow "'chan'"
      if tDir == .send then
        match value with
        | .chanType .. =>
          let (v', d, a) ← reassociate n tArrow value
          return (.chanType arrow arrow .recv v', d, a)
        | _ => return (.chanType arrow arrow .recv value, tDir, tArrow)
      return (.chanType arrow arrow .recv value, tDir, tArrow)
    | _ => return (t, .send, arrow)
termination_by structural f _ _ => f

/-- A unary expression. -/
def parseUnaryExpr : Nat → P Expr
  | 0 => giveUp
  | n + 1 => do
    let s ← get
    match s.tok with
    | .op "+" | .op "-" | .op "!" | .op "^" | .op "&" | .op "~" =>
      next
      return .unary s.pos s.tok (← parseUnaryExpr n)
    | .op "<-" =>
      next
      let x ← parseUnaryExpr n
      match x with
      | .chanType .. =>
        let (x', dir, lastArrow) ← reassociate n s.pos x
        if dir == .send then errorExpected lastArrow "channel type"
        return x'
      | _ => return .unary s.pos .arrow x
    | .op "*" =>
      next
      return .star s.pos (← parseUnaryExpr n)
    | _ => parsePrimaryExpr n none
termination_by structural f => f

/-- Binary operations binding at least as tight as `prec1`, after a left operand. -/
def parseBinaryRest : Nat → Expr → Nat → P Expr
  | 0, _, _ => giveUp
  | n + 1, x, prec1 => do
    let s ← get
    let op := if s.inRhs && s.tok == .assign then .op "==" else s.tok
    let oprec := op.precedence
    if oprec < prec1 || oprec == 0 then return x
    let pos ← expect op
    let y ← parseBinaryExpr n none (oprec + 1)
    parseBinaryRest n (.binary x pos op y) prec1
termination_by structural f _ _ => f

/-- A binary expression, from a given left operand or a new one. -/
def parseBinaryExpr : Nat → Option Expr → Nat → P Expr
  | 0, _, _ => giveUp
  | n + 1, x, prec1 => do
    let x ← match x with
      | some x => pure x
      | none => parseUnaryExpr n
    parseBinaryRest n x prec1
termination_by structural f _ _ => f

/-- An expression. -/
def parseExpr : Nat → P Expr
  | 0 => giveUp
  | n + 1 => parseBinaryExpr n none 1
termination_by structural f => f

/-- An expression on the right of an assignment. -/
def parseRhs : Nat → P Expr
  | 0 => giveUp
  | n + 1 => do
    let old := (← get).inRhs
    modify fun s => { s with inRhs := true }
    let x ← parseExpr n
    modify fun s => { s with inRhs := old }
    return x
termination_by structural f => f

/-- Expressions separated by commas. -/
def parseExprList : Nat → P (List Expr)
  | 0 => giveUp
  | n + 1 => do
    let x ← parseExpr n
    if (← curTok) == .comma then
      next
      return x :: (← parseExprList n)
    return [x]
termination_by structural f => f

/-- Expressions separated by commas, on the right of an assignment or not. -/
def parseList : Nat → Bool → P (List Expr)
  | 0, _ => giveUp
  | n + 1, inRhs => do
    let old := (← get).inRhs
    modify fun s => { s with inRhs := inRhs }
    let l ← parseExprList n
    modify fun s => { s with inRhs := old }
    return l

-- Statements
termination_by structural f _ => f

/-- A simple statement; `mode` is 0 for plain, 1 where labels may stand, 2 where
a range clause may; also whether it is a range clause. -/
def parseSimpleStmt : Nat → Nat → P (Stmt × Bool)
  | 0, _ => giveUp
  | n + 1, mode => do
    let x ← parseList n false
    let s ← get
    if s.tok.isAssign then
      next
      if mode == 2 && (← curTok) == .kw "range" && (s.tok == .define || s.tok == .assign) then
        let rpos ← curPos
        next
        let y ← parseRhs n
        return (.assign x s.pos s.tok [.unary rpos (.kw "range") y], true)
      let y ← parseList n true
      return (.assign x s.pos s.tok y, false)
    let x0 := x.headD (.bad 0 0)
    if x.length > 1 then errorExpected x0.pos "1 expression"
    match s.tok with
    | .op "\x3a" =>
      next
      match x0 with
      | .ident label =>
        if mode == 1 then
          let st ← parseStmt n
          return (.labeled label s.pos st, false)
        error s.pos "illegal label declaration"
        return (.bad x0.pos (s.pos + 1), false)
      | _ =>
        error s.pos "illegal label declaration"
        return (.bad x0.pos (s.pos + 1), false)
    | .op "<-" =>
      next
      let y ← parseRhs n
      return (.send x0 s.pos y, false)
    | .op "++" | .op "--" =>
      next
      return (.incDec x0 s.pos s.tok, false)
    | _ => return (.expr x0, false)
termination_by structural f _ => f

/-- The call of a `go` or `defer` statement. -/
def parseCallExpr : Nat → String → P (Option Expr)
  | 0, _ => giveUp
  | n + 1, callType => do
    let x ← parseRhs n
    let t := unparen x
    match x with
    | .paren .. => error x.pos ("expression in " ++ callType ++ " must not be parenthesized")
    | _ => pure ()
    match t with
    | .call .. => return some t
    | .bad .. => return none
    | _ =>
      error (← safePos t.end_) ("expression in " ++ callType ++ " must be function call")
      return none
termination_by structural f _ => f

/-- The clauses of an if statement before its body. -/
def parseIfHeader : Nat → P (Option Stmt × Expr)
  | 0 => giveUp
  | n + 1 => do
    if (← curTok) == .lbrace then
      let p ← curPos
      error p "missing condition in if statement"
      return (none, .bad p p)
    let prevLev := (← get).exprLev
    modify fun s => { s with exprLev := -1 }
    let init ← if (← curTok) != .semicolon then do
        if (← curTok) == .kw "var" then
          next
          error (← curPos) "var declaration not allowed in if initializer"
        pure (some (← parseSimpleStmt n 0).1)
      else pure none
    let (init, condStmt, semi) ← if (← curTok) != .lbrace then do
        let s ← get
        let semi ← if s.tok == .semicolon then do next; pure (some (s.pos, s.lit))
          else do discard <| expect .semicolon; pure none
        let cs ← if (← curTok) != .lbrace then some <$> (Prod.fst <$> parseSimpleStmt n 0) else pure none
        pure (init, cs, semi)
      else pure (none, init, none)
    let cond ← match condStmt with
      | some _ => makeExpr condStmt "boolean expression"
      | none =>
        match semi with
        | some (p, l) =>
          if l == "\n" then error p "unexpected newline, expecting \x7b after if clause"
          else error p "missing condition in if statement"
          pure none
        | none => pure none
    let cond ← match cond with
      | some c => pure c
      | none => do let p ← curPos; pure (Expr.bad p p)
    modify fun s => { s with exprLev := prevLev }
    return (init, cond)
termination_by structural f => f

/-- An if statement. -/
def parseIfStmt : Nat → P Stmt
  | 0 => giveUp
  | n + 1 => do
    let pos ← expect (.kw "if")
    let (init, cond) ← parseIfHeader n
    let body ← parseBlockStmt n
    if (← curTok) == .kw "else" then
      next
      match ← curTok with
      | .kw "if" => return .if_ pos init cond body (some (← parseIfStmt n))
      | .op "\x7b" =>
        let e ← parseBlockStmt n
        discard expectSemi
        return .if_ pos init cond body (some e)
      | _ =>
        let p ← curPos
        errorExpected p "if statement or block"
        return .if_ pos init cond body (some (.bad p p))
    discard expectSemi
    return .if_ pos init cond body none
termination_by structural f => f

/-- A case clause of a switch. -/
def parseCaseClause : Nat → P Stmt
  | 0 => giveUp
  | n + 1 => do
    let pos ← curPos
    let (list, isDefault) ← if (← curTok) == .kw "case" then do
        next
        pure (← parseList n true, false)
      else do
        discard <| expect (.kw "default")
        pure ([], true)
    let colon ← expect .colon
    let body ← parseStmtList n
    return .caseClause pos list isDefault colon body
termination_by structural f => f

/-- The case clauses of a switch. -/
def parseCaseClauses : Nat → P (List Stmt)
  | 0 => giveUp
  | n + 1 => do
    let t ← curTok
    if t == .kw "case" || t == .kw "default" then
      let c ← parseCaseClause n
      return c :: (← parseCaseClauses n)
    return []
termination_by structural f => f

/-- A switch statement, of expressions or of types. -/
def parseSwitchStmt : Nat → P Stmt
  | 0 => giveUp
  | n + 1 => do
    let pos ← expect (.kw "switch")
    let (s1, s2) ← if (← curTok) != .lbrace then do
        let prevLev := (← get).exprLev
        modify fun s => { s with exprLev := -1 }
        let s2 ← if (← curTok) != .semicolon then some <$> (Prod.fst <$> parseSimpleStmt n 0) else pure none
        let r ← if (← curTok) == .semicolon then do
            next
            let s2' ← if (← curTok) != .lbrace then some <$> (Prod.fst <$> parseSimpleStmt n 0) else pure none
            pure (s2, s2')
          else pure (none, s2)
        modify fun s => { s with exprLev := prevLev }
        pure r
      else pure (none, none)
    let typeSwitch ← isTypeSwitchGuard s2
    let lbrace ← expect .lbrace
    let list ← parseCaseClauses n
    let rbrace ← expect .rbrace
    discard expectSemi
    let body := Stmt.block lbrace list rbrace
    if typeSwitch then
      return .typeSwitch pos s1 (s2.getD (.bad 0 0)) body
    return .switch pos s1 (← makeExpr s2 "switch expression") body
termination_by structural f => f

/-- A communication clause of a select. -/
def parseCommClause : Nat → P Stmt
  | 0 => giveUp
  | n + 1 => do
    let pos ← curPos
    let comm ← if (← curTok) == .kw "case" then do
        next
        let lhs ← parseList n false
        let s ← get
        if s.tok == .arrow then
          if lhs.length > 1 then errorExpected (lhs.headD (.bad 0 0)).pos "1 expression"
          next
          let rhs ← parseRhs n
          pure (some (Stmt.send (lhs.headD (.bad 0 0)) s.pos rhs))
        else if s.tok == .assign || s.tok == .define then
          if lhs.length > 2 then errorExpected (lhs.headD (.bad 0 0)).pos "1 or 2 expressions"
          next
          let rhs ← parseRhs n
          pure (some (Stmt.assign lhs s.pos s.tok [rhs]))
        else
          if lhs.length > 1 then errorExpected (lhs.headD (.bad 0 0)).pos "1 expression"
          pure (some (Stmt.expr (lhs.headD (.bad 0 0))))
      else do
        discard <| expect (.kw "default")
        pure none
    let colon ← expect .colon
    let body ← parseStmtList n
    return .commClause pos comm colon body
termination_by structural f => f

/-- The communication clauses of a select. -/
def parseCommClauses : Nat → P (List Stmt)
  | 0 => giveUp
  | n + 1 => do
    let t ← curTok
    if t == .kw "case" || t == .kw "default" then
      let c ← parseCommClause n
      return c :: (← parseCommClauses n)
    return []
termination_by structural f => f

/-- A select statement. -/
def parseSelectStmt : Nat → P Stmt
  | 0 => giveUp
  | n + 1 => do
    let pos ← expect (.kw "select")
    let lbrace ← expect .lbrace
    let list ← parseCommClauses n
    let rbrace ← expect .rbrace
    discard expectSemi
    return .select pos (.block lbrace list rbrace)
termination_by structural f => f

/-- A for statement, with a range clause or not. -/
def parseForStmt : Nat → P Stmt
  | 0 => giveUp
  | n + 1 => do
    let pos ← expect (.kw "for")
    let (s1, s2, s3, isRange) ← if (← curTok) != .lbrace then do
        let prevLev := (← get).exprLev
        modify fun s => { s with exprLev := -1 }
        let (s2, isRange) ← if (← curTok) != .semicolon then do
            if (← curTok) == .kw "range" then
              let rpos ← curPos
              next
              let y ← parseRhs n
              pure (some (Stmt.assign [] 0 .illegal [.unary rpos (.kw "range") y]), true)
            else do
              let (st, r) ← parseSimpleStmt n 2
              pure (some st, r)
          else pure (none, false)
        let r ← if !isRange && (← curTok) == .semicolon then do
            next
            let s2' ← if (← curTok) != .semicolon then some <$> (Prod.fst <$> parseSimpleStmt n 0) else pure none
            discard expectSemi
            let s3 ← if (← curTok) != .lbrace then some <$> (Prod.fst <$> parseSimpleStmt n 0) else pure none
            pure (s2, s2', s3, false)
          else pure (none, s2, none, isRange)
        modify fun s => { s with exprLev := prevLev }
        pure r
      else pure (none, none, none, false)
    let body ← parseBlockStmt n
    discard expectSemi
    if isRange then
      match s2 with
      | some (.assign lhs tokPos tok [rng@(.unary _ _ x)]) =>
        match lhs with
        | [] => return .range pos none none tokPos tok rng.pos x body
        | [k] => return .range pos (some k) none tokPos tok rng.pos x body
        | [k, v] => return .range pos (some k) (some v) tokPos tok rng.pos x body
        | _ =>
          errorExpected (lhs.getLastD (.bad 0 0)).pos "at most 2 expressions"
          return .bad pos (← safePos body.end_)
      | _ => return .bad pos body.end_
    return .for_ pos s1 (← makeExpr s2 "boolean or range expression") s3 body
termination_by structural f => f

/-- A statement. -/
def parseStmt : Nat → P Stmt
  | 0 => giveUp
  | n + 1 => do
    let s ← get
    match s.tok with
    | .kw "const" | .kw "type" | .kw "var" => return .decl (← parseDecl n stmtStart)
    | .ident | .int | .float | .imag | .char | .string | .kw "func" | .op "("
    | .op "[" | .kw "struct" | .kw "map" | .kw "chan" | .kw "interface"
    | .op "+" | .op "-" | .op "*" | .op "&" | .op "^" | .op "<-" | .op "!" =>
      let (st, _) ← parseSimpleStmt n 1
      match st with
      | .labeled .. => pure ()
      | _ => discard expectSemi
      return st
    | .kw "go" =>
      let pos ← expect (.kw "go")
      let call ← parseCallExpr n "go"
      discard expectSemi
      match call with
      | some c => return .go pos c
      | none => return .bad pos (pos + 2)
    | .kw "defer" =>
      let pos ← expect (.kw "defer")
      let call ← parseCallExpr n "defer"
      discard expectSemi
      match call with
      | some c => return .defer pos c
      | none => return .bad pos (pos + 5)
    | .kw "return" =>
      discard <| expect (.kw "return")
      let t ← curTok
      let x ← if t != .semicolon && t != .rbrace then parseList n true else pure []
      discard expectSemi
      return .return_ s.pos x
    | .kw "break" | .kw "continue" | .kw "goto" | .kw "fallthrough" =>
      let pos ← expect s.tok
      let label ← if s.tok != .kw "fallthrough" && (← curTok) == .ident then some <$> parseIdent else pure none
      discard expectSemi
      return .branch pos s.tok label
    | .op "\x7b" =>
      let b ← parseBlockStmt n
      discard expectSemi
      return b
    | .kw "if" => parseIfStmt n
    | .kw "switch" => parseSwitchStmt n
    | .kw "select" => parseSelectStmt n
    | .kw "for" => parseForStmt n
    | .op ";" =>
      next
      return .empty s.pos (s.lit == "\n")
    | .op "\x7d" => return .empty s.pos true
    | _ =>
      errorExpected s.pos "statement"
      advance stmtStart
      return .bad s.pos (← curPos)
termination_by structural f => f

/-- Statements up to a case, a default, a closing brace or the end. -/
def parseStmtList : Nat → P (List Stmt)
  | 0 => giveUp
  | n + 1 => do
    let t ← curTok
    if t == .kw "case" || t == .kw "default" || t == .rbrace || t == .eof then return []
    let st ← parseStmt n
    return st :: (← parseStmtList n)
termination_by structural f => f

/-- A function body. -/
def parseBody : Nat → P Stmt
  | 0 => giveUp
  | n + 1 => do
    let lbrace ← expect .lbrace
    let list ← parseStmtList n
    let rbrace ← expect2 .rbrace
    return .block lbrace list rbrace
termination_by structural f => f

/-- A block. -/
def parseBlockStmt : Nat → P Stmt
  | 0 => giveUp
  | n + 1 => parseBody n

-- Declarations
termination_by structural f => f

/-- A constant or variable specification. -/
def parseValueSpec : Nat → Option CommentGroup → Tok → P Spec
  | 0, _, _ => giveUp
  | n + 1, doc, keyword => do
    let names ← parseIdentList n
    let (typ, values) ← if keyword == .kw "const" then do
        let t ← curTok
        if t != .eof && t != .semicolon && t != .rparen then
          let typ ← tryIdentOrType n
          if (← curTok) == .assign then
            next
            pure (typ, ← parseList n true)
          else pure (typ, [])
        else pure (none, [])
      else do
        let typ ← if (← curTok) != .assign then some <$> parseType n else pure none
        if (← curTok) == .assign then
          next
          pure (typ, ← parseList n true)
        else pure (typ, [])
    let comment ← expectSemi
    return .value doc names typ values comment
termination_by structural f _ _ => f

/-- The type parameters and type of a generic type specification. -/
def parseGenericType : Nat → Pos → Ident → Option Expr → P (FieldList × Pos × Expr)
  | 0, _, _, _ => giveUp
  | n + 1, openPos, name0, typ0 => do
    let list ← parseParameterList n (some name0) typ0 .rbrack
    let closePos ← expect .rbrack
    let assign ← if (← curTok) == .assign then do let p ← curPos; next; pure p else pure 0
    let typ ← parseType n
    return (.mk openPos list closePos, assign, typ)
termination_by structural f _ _ _ => f

/-- A type specification. -/
def parseTypeSpec : Nat → Option CommentGroup → P Spec
  | 0, _ => giveUp
  | n + 1, doc => do
    let name ← parseIdent
    if (← curTok) == .lbrack then
      let lbrack ← curPos
      next
      if (← curTok) == .ident then
        let x0 := Expr.ident (← parseIdent)
        let x ← if (← curTok) != .lbrack then do
            modify fun s => { s with exprLev := s.exprLev + 1 }
            let lhs ← parsePrimaryExpr n (some x0)
            let x ← parseBinaryExpr n (some lhs) 1
            modify fun s => { s with exprLev := s.exprLev - 1 }
            pure x
          else pure x0
        let (pname, ptype) := extractName x ((← curTok) == .comma)
        match pname with
        | some pn =>
          if ptype.isSome || (← curTok) != .rbrack then
            let (tps, assign, typ) ← parseGenericType n lbrack pn ptype
            let comment ← expectSemi
            return .type doc name (some tps) assign typ comment
          let typ ← parseArrayType n lbrack (some x)
          let comment ← expectSemi
          return .type doc name none 0 typ comment
        | none =>
          let typ ← parseArrayType n lbrack (some x)
          let comment ← expectSemi
          return .type doc name none 0 typ comment
      else
        let typ ← parseArrayType n lbrack none
        let comment ← expectSemi
        return .type doc name none 0 typ comment
    let assign ← if (← curTok) == .assign then do let p ← curPos; next; pure p else pure 0
    let typ ← parseType n
    let comment ← expectSemi
    return .type doc name none assign typ comment
termination_by structural f _ => f

/-- A specification of a kind of declaration. -/
def parseSpec : Nat → Option CommentGroup → Tok → P Spec
  | 0, _, _ => giveUp
  | n + 1, doc, keyword =>
    match keyword with
    | .kw "import" => parseImportSpec doc
    | .kw "type" => parseTypeSpec n doc
    | _ => parseValueSpec n doc keyword
termination_by structural f _ _ => f

/-- The specifications of a parenthesized declaration. -/
def parseSpecs : Nat → Tok → P (List Spec)
  | 0, _ => giveUp
  | n + 1, keyword => do
    let t ← curTok
    if t == .rparen || t == .eof then return []
    let sp ← parseSpec n (← get).leadComment keyword
    return sp :: (← parseSpecs n keyword)
termination_by structural f _ => f

/-- A general declaration of a keyword. -/
def parseGenDecl : Nat → Tok → P Decl
  | 0, _ => giveUp
  | n + 1, keyword => do
    let doc := (← get).leadComment
    let pos ← expect keyword
    if (← curTok) == .lparen then
      let lparen ← curPos
      next
      let list ← parseSpecs n keyword
      let rparen ← expect .rparen
      discard expectSemi
      return .gen doc pos keyword lparen list rparen
    let sp ← parseSpec n none keyword
    return .gen doc pos keyword 0 [sp] 0
termination_by structural f _ => f

/-- A function or method declaration. -/
def parseFuncDecl : Nat → P Decl
  | 0 => giveUp
  | n + 1 => do
    let doc := (← get).leadComment
    let pos ← expect (.kw "func")
    let recv ← if (← curTok) == .lparen then some <$> (Prod.snd <$> parseParameters n false) else pure none
    let ident ← parseIdent
    let (tparams, params) ← parseParameters n true
    let tparams ← match recv, tparams with
      | some _, some tp => do error tp.opening "method must have no type parameters"; pure none
      | _, tp => pure tp
    let results ← parseResult n
    let body ← match ← curTok with
      | .op "\x7b" => do
        let b ← parseBody n
        discard expectSemi
        pure (some b)
      | .op ";" => do
        next
        if (← curTok) == .lbrace then
          error (← curPos) "unexpected semicolon or newline before \x7b"
          let b ← parseBody n
          discard expectSemi
          pure (some b)
        else pure none
      | _ => do
        discard expectSemi
        pure none
    return .func doc recv ident (.funcType pos tparams params results) body
termination_by structural f => f

/-- A declaration; after a malformed one, recovery skips to a token of `sync`. -/
def parseDecl : Nat → (Tok → Bool) → P Decl
  | 0, _ => giveUp
  | n + 1, sync => do
    match ← curTok with
    | .kw "import" => parseGenDecl n (.kw "import")
    | .kw "const" => parseGenDecl n (.kw "const")
    | .kw "var" => parseGenDecl n (.kw "var")
    | .kw "type" => parseGenDecl n (.kw "type")
    | .kw "func" => parseFuncDecl n
    | _ =>
      let pos ← curPos
      errorExpected pos "declaration"
      advance sync
      return .bad pos (← curPos)
termination_by structural f _ => f

end

/-- The import declarations at the start of a file. -/
def parseImports : Nat → Nat → P (List Decl)
  | 0, _ => return []
  | k + 1, n => do
    if (← curTok) == .kw "import" then
      let d ← parseGenDecl n (.kw "import")
      return d :: (← parseImports k n)
    return []

/-- The declarations after the imports; an import there is a complaint. -/
def parseDecls : Nat → Nat → Tok → P (List Decl)
  | 0, _, _ => return []
  | k + 1, n, prev => do
    let s ← get
    if s.tok == .eof then return []
    if s.tok == .kw "import" && prev != .kw "import" then
      error s.pos "imports must appear before other declarations"
    let d ← parseDecl n P.declStart
    return d :: (← parseDecls k n s.tok)

/-- A source file: package clause and declarations; none when the first token
or the package clause is malformed. -/
def parseFileBody (fuel : Nat) : P (Option File) := do
  if !(← get).errors.isEmpty then return none
  let doc := (← get).leadComment
  let pos ← expect (.kw "package")
  let name ← parseIdent
  discard expectSemi
  if !(← get).errors.isEmpty then return none
  let imports ← parseImports fuel fuel
  let rest ← parseDecls fuel fuel (.kw "import")
  return some { doc, package := pos, name, decls := imports ++ rest, comments := (← get).comments.toList }

/-- The outcome of parsing: the file (if it got that far), the errors sorted by
position and message, and where the lines of the source start. -/
structure Parsed where
  file : Option File
  errors : List (Pos × String)
  lines : Array Nat

/-- Sorts errors by position, then by message. -/
def sortErrors (es : List (Pos × String)) : List (Pos × String) :=
  es.mergeSort fun a b => a.1 < b.1 || (a.1 == b.1 && decide (a.2 ≤ b.2))

/-- Parses a source text. -/
def parseSource (text : String) : Parsed :=
  let sc := Scanner.init text
  let lines := lineStarts sc.src
  let init : ParseState := { scanner := sc, lines }
  let fuel := 4 * sc.src.size + 64
  let run : P (Option File) := do
    next
    parseFileBody fuel
  match run.run init with
  | .ok (f, s) => ⟨f, sortErrors s.errors.toList, lines⟩
  | .error (.bailout es) => ⟨none, sortErrors es.toList, lines⟩

/-- An error as the toolchain shows it: file, line and byte column, then the
message; an empty file name is left out. -/
def showError (path : String) (lines : Array Nat) (e : Pos × String) : String :=
  let where_ :=
    if e.1 == 0 then path
    else (if path.isEmpty then "" else path ++ ":") ++ toString (lineIn lines e.1) ++ ":" ++
      toString (columnIn lines e.1)
  if where_.isEmpty then e.2 else where_ ++ ": " ++ e.2

/-- The report of a parse: the first error, and how many more there are. -/
def Parsed.report (r : Parsed) (path : String) : Option String :=
  match r.errors with
  | [] => none
  | [e] => some (showError path r.lines e)
  | e :: more => some (showError path r.lines e ++ " (and " ++ toString more.length ++ " more errors)")

/-- Parses a file: its tree, or the report of its errors. -/
def parseFile (path text : String) : Except String File :=
  let r := parseSource text
  match r.report path, r.file with
  | some msg, _ => .error msg
  | none, some f => .ok f
  | none, none => .error (path ++ ": no file")

end UpnpBind.GoSource
