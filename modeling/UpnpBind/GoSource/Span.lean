import UpnpBind.GoSource.Ast

/-!
# Where nodes begin and end

The position of a node is that of its first token; its end is the position
just past its last token. A node whose closing token is missing ends where its
last part ends.
-/

namespace UpnpBind.GoSource

/-- The end of an identifier. -/
def Ident.end_ (i : Ident) : Pos := i.pos + i.name.utf8ByteSize

/-- The end of a literal. -/
def BasicLit.end_ (l : BasicLit) : Pos := l.pos + l.value.utf8ByteSize

/-- A position, or another when it is missing. -/
def orPos (p q : Pos) : Pos := if p != 0 then p else q

mutual

/-- The position of an expression. -/
def Expr.pos : Expr → Pos
  | .bad f _ => f
  | .ident i => i.pos
  | .ellipsis p _ => p
  | .basicLit l => l.pos
  | .funcLit t _ => t.pos
  | .compositeLit t lb _ _ _ =>
    match t with
    | some t => t.pos
    | none => lb
  | .paren lp _ _ => lp
  | .selector x _ => x.pos
  | .index x _ _ _ => x.pos
  | .indexList x _ _ _ => x.pos
  | .slice x _ _ _ _ _ _ => x.pos
  | .typeAssert x _ _ _ => x.pos
  | .call f _ _ _ _ => f.pos
  | .star p _ => p
  | .unary p _ _ => p
  | .binary x _ _ _ => x.pos
  | .keyValue k _ _ => k.pos
  | .arrayType lb _ _ => lb
  | .structType p _ _ => p
  | .funcType p _ params _ => if p != 0 then p else params.pos
  | .interfaceType p _ _ => p
  | .mapType p _ _ => p
  | .chanType b _ _ _ => b

/-- The position of a field list: its opening token, else its first field. -/
def FieldList.pos : FieldList → Pos
  | .mk o l _ => if o != 0 then o else Field.listPos l

/-- The position of the first of a list of fields. -/
def Field.listPos : List Field → Pos
  | [] => 0
  | f :: _ => f.pos

/-- The position of a field: its first name, else its type. -/
def Field.pos : Field → Pos
  | .mk _ names t _ _ =>
    match names with
    | n :: _ => n.pos
    | [] => t.pos

end

mutual

/-- The end of an expression. -/
def Expr.end_ : Expr → Pos
  | .bad _ t => t
  | .ident i => i.end_
  | .ellipsis p elt =>
    match elt with
    | some e => e.end_
    | none => p + 3
  | .basicLit l => l.end_
  | .funcLit _ b => b.end_
  | .compositeLit _ _ _ rb _ => rb + 1
  | .paren _ _ rp => rp + 1
  | .selector _ s => s.end_
  | .index _ _ _ rb => rb + 1
  | .indexList _ _ _ rb => rb + 1
  | .slice _ _ _ _ _ _ rb => rb + 1
  | .typeAssert _ _ _ rp => rp + 1
  | .call _ _ _ _ rp => rp + 1
  | .star _ x => x.end_
  | .unary _ _ x => x.end_
  | .binary _ _ _ y => y.end_
  | .keyValue _ _ v => v.end_
  | .arrayType _ _ e => e.end_
  | .structType _ fs _ => fs.end_
  | .funcType _ _ params results =>
    match results with
    | some r => r.end_
    | none => params.end_
  | .interfaceType _ ms _ => ms.end_
  | .mapType _ _ v => v.end_
  | .chanType _ _ _ v => v.end_

/-- The end of a field list: past its closing token, else its last field's end. -/
def FieldList.end_ : FieldList → Pos
  | .mk _ l c => if c != 0 then c + 1 else Field.listEnd l

/-- The end of the last of a list of fields. -/
def Field.listEnd : List Field → Pos
  | [] => 0
  | [f] => f.end_
  | _ :: rest => Field.listEnd rest

/-- The end of a field: its tag, else its type. -/
def Field.end_ : Field → Pos
  | .mk _ _ t tag _ =>
    match tag with
    | some l => l.end_
    | none => t.end_

/-- The end of a statement. -/
def Stmt.end_ : Stmt → Pos
  | .bad _ t => t
  | .decl d => d.end_
  | .empty p implicit => if implicit then p else p + 1
  | .labeled _ _ s => s.end_
  | .expr x => x.end_
  | .send _ _ v => v.end_
  | .incDec _ p _ => p + 2
  | .assign _ p _ rhs => Expr.listEnd p rhs
  | .go _ c => c.end_
  | .defer _ c => c.end_
  | .return_ p rs => Expr.listEnd (p + 6) rs
  | .branch p tok label =>
    match label with
    | some l => l.end_
    | none => p + tok.name.utf8ByteSize
  | .block lb l rb => if rb != 0 then rb + 1 else Stmt.listEnd (lb + 1) l
  | .if_ _ _ _ body els =>
    match els with
    | some e => e.end_
    | none => body.end_
  | .caseClause _ _ _ colon body => Stmt.listEnd (colon + 1) body
  | .switch _ _ _ b => b.end_
  | .typeSwitch _ _ _ b => b.end_
  | .commClause _ _ colon body => Stmt.listEnd (colon + 1) body
  | .select _ b => b.end_
  | .for_ _ _ _ _ b => b.end_
  | .range _ _ _ _ _ _ _ b => b.end_

/-- The end of the last of a list of expressions, or a default for none. -/
def Expr.listEnd (d : Pos) : List Expr → Pos
  | [] => d
  | [x] => x.end_
  | _ :: rest => Expr.listEnd d rest

/-- The end of the last of a list of statements, or a default for none. -/
def Stmt.listEnd (d : Pos) : List Stmt → Pos
  | [] => d
  | [s] => s.end_
  | _ :: rest => Stmt.listEnd d rest

/-- The end of a declaration. -/
def Decl.end_ : Decl → Pos
  | .bad _ t => t
  | .gen _ _ _ _ specs rp => if rp != 0 then rp + 1 else Spec.firstEnd specs
  | .func _ _ _ t body =>
    match body with
    | some b => b.end_
    | none => t.end_

/-- The end of the first of a list of specifications. -/
def Spec.firstEnd : List Spec → Pos
  | [] => 0
  | s :: _ => s.end_

/-- The end of a specification. -/
def Spec.end_ : Spec → Pos
  | .import_ _ _ path _ e => if e != 0 then e else path.end_
  | .value _ names t values _ =>
    let typeEnd := match t with
      | some t => t.end_
      | none => (names.getLast?.map Ident.end_).getD 0
    Expr.listEnd typeEnd values
  | .type _ _ _ _ t _ => t.end_

end

/-- The position of a statement. -/
def Stmt.pos : Stmt → Pos
  | .bad f _ => f
  | .decl d => match d with
    | .bad f _ => f
    | .gen _ p _ _ _ _ => p
    | .func _ _ _ t _ => t.pos
  | .empty p _ => p
  | .labeled l _ _ => l.pos
  | .expr x => x.pos
  | .send c _ _ => c.pos
  | .incDec x _ _ => x.pos
  | .assign lhs p _ _ => (lhs.head?.map Expr.pos).getD p
  | .go p _ | .defer p _ | .return_ p _ | .branch p _ _ | .block p _ _ | .if_ p _ _ _ _
  | .caseClause p _ _ _ _ | .switch p _ _ _ | .typeSwitch p _ _ _ | .commClause p _ _ _
  | .select p _ | .for_ p _ _ _ _ | .range p _ _ _ _ _ _ _ => p

/-- The position of a declaration. -/
def Decl.pos : Decl → Pos
  | .bad f _ => f
  | .gen _ p _ _ _ _ => p
  | .func _ _ _ t _ => t.pos

/-- The position of a specification. -/
def Spec.pos : Spec → Pos
  | .import_ _ name path _ _ => match name with
    | some n => n.pos
    | none => path.pos
  | .value _ names _ _ _ => (names.head?.map Ident.pos).getD 0
  | .type _ n _ _ _ _ => n.pos

end UpnpBind.GoSource
