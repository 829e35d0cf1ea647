import UpnpBind.GoSource.Token

/-!
# Go syntax trees

The trees the parser builds and the printer lays out. Every node keeps the
positions of its tokens, as byte offsets plus one (0 is no position), because
the layout follows the line breaks of the source: a node's position is that of
its first token and its end is just past its last token.

Comments are kept apart, as groups of adjacent comments in source order; a
declaration, specification or field also points at the group documenting it
and at the group trailing it on its line.
-/

namespace UpnpBind.GoSource

/-- A source position: a byte offset plus one; 0 is no position. -/
abbrev Pos := Nat

/-- A comment: where its first slash is and its text, markers included. -/
structure Comment where
  slash : Pos
  text : String
deriving Repr, DecidableEq, Inhabited

/-- A group of adjacent comments. -/
structure CommentGroup where
  list : List Comment
deriving Repr, DecidableEq, Inhabited

namespace CommentGroup

/-- The position of a group's first comment. -/
def pos (g : CommentGroup) : Pos := (g.list.head?.map (·.slash)).getD 0

/-- The end of a group's last comment. -/
def end_ (g : CommentGroup) : Pos :=
  match g.list.getLast? with
  | some c => c.slash + c.text.utf8ByteSize
  | none => 0

end CommentGroup

/-- A literal: its position, kind and text. -/
structure BasicLit where
  pos : Pos
  kind : Tok
  value : String
deriving Repr, DecidableEq, Inhabited

/-- An identifier. -/
structure Ident where
  pos : Pos
  name : String
deriving Repr, DecidableEq, Inhabited

/-- The direction of a channel type. -/
inductive ChanDir where
  | both
  | send
  | recv
deriving Repr, DecidableEq, Inhabited

mutual

/-- An expression or a type. -/
inductive Expr where
  | bad (from_ to_ : Pos)
  | ident (i : Ident)
  /-- `...` with an optional element type. -/
  | ellipsis (pos : Pos) (elt : Option Expr)
  | basicLit (l : BasicLit)
  | funcLit (type : Expr) (body : Stmt)
  /-- A composite literal: type, braces and elements, and whether it was cut short. -/
  | compositeLit (type : Option Expr) (lbrace : Pos) (elts : List Expr) (rbrace : Pos) (incomplete : Bool)
  | paren (lparen : Pos) (x : Expr) (rparen : Pos)
  | selector (x : Expr) (sel : Ident)
  | index (x : Expr) (lbrack : Pos) (index : Expr) (rbrack : Pos)
  | indexList (x : Expr) (lbrack : Pos) (indices : List Expr) (rbrack : Pos)
  | slice (x : Expr) (lbrack : Pos) (low high max : Option Expr) (slice3 : Bool) (rbrack : Pos)
  /-- A type assertion; no type means `.(type)`. -/
  | typeAssert (x : Expr) (lparen : Pos) (type : Option Expr) (rparen : Pos)
  /-- A call; `ellipsis` is the position of a final `...`, or 0. -/
  | call (fn : Expr) (lparen : Pos) (args : List Expr) (ellipsis : Pos) (rparen : Pos)
  | star (pos : Pos) (x : Expr)
  | unary (pos : Pos) (op : Tok) (x : Expr)
  | binary (x : Expr) (opPos : Pos) (op : Tok) (y : Expr)
  | keyValue (key : Expr) (colon : Pos) (value : Expr)
  /-- An array type, or a slice type without a length. -/
  | arrayType (lbrack : Pos) (len : Option Expr) (elt : Expr)
  | structType (pos : Pos) (fields : FieldList) (incomplete : Bool)
  /-- A function type; `pos` is 0 when the type has no `func` keyword. -/
  | funcType (pos : Pos) (typeParams : Option FieldList) (params : FieldList) (results : Option FieldList)
  | interfaceType (pos : Pos) (methods : FieldList) (incomplete : Bool)
  | mapType (pos : Pos) (key value : Expr)
  | chanType (begin_ arrow : Pos) (dir : ChanDir) (value : Expr)

/-- A field, parameter or method: documentation, names, type, tag and trailing comment. -/
inductive Field where
  | mk (doc : Option CommentGroup) (names : List Ident) (type : Expr) (tag : Option BasicLit)
      (comment : Option CommentGroup)

/-- A list of fields between an opening and a closing token (0 when absent). -/
inductive FieldList where
  | mk (opening : Pos) (list : List Field) (closing : Pos)

/-- A statement. -/
inductive Stmt where
  | bad (from_ to_ : Pos)
  | decl (d : Decl)
  /-- An empty statement; `implicit` when it stands for a missing one. -/
  | empty (semicolon : Pos) (implicit : Bool)
  | labeled (label : Ident) (colon : Pos) (stmt : Stmt)
  | expr (x : Expr)
  | send (chan : Expr) (arrow : Pos) (value : Expr)
  | incDec (x : Expr) (tokPos : Pos) (tok : Tok)
  | assign (lhs : List Expr) (tokPos : Pos) (tok : Tok) (rhs : List Expr)
  | go (pos : Pos) (call : Expr)
  | defer (pos : Pos) (call : Expr)
  | return_ (pos : Pos) (results : List Expr)
  | branch (pos : Pos) (tok : Tok) (label : Option Ident)
  | block (lbrace : Pos) (list : List Stmt) (rbrace : Pos)
  | if_ (pos : Pos) (init : Option Stmt) (cond : Expr) (body : Stmt) (else_ : Option Stmt)
  /-- A case of a switch; no expressions means `default`. -/
  | caseClause (pos : Pos) (list : List Expr) (isDefault : Bool) (colon : Pos) (body : List Stmt)
  | switch (pos : Pos) (init : Option Stmt) (tag : Option Expr) (body : Stmt)
  | typeSwitch (pos : Pos) (init : Option Stmt) (assign : Stmt) (body : Stmt)
  /-- A case of a select; no communication means `default`. -/
  | commClause (pos : Pos) (comm : Option Stmt) (colon : Pos) (body : List Stmt)
  | select (pos : Pos) (body : Stmt)
  | for_ (pos : Pos) (init : Option Stmt) (cond : Option Expr) (post : Option Stmt) (body : Stmt)
  | range (pos : Pos) (key value : Option Expr) (tokPos : Pos) (tok : Tok) (rangePos : Pos) (x : Expr)
      (body : Stmt)

/-- A specification of a general declaration. -/
inductive Spec where
  | import_ (doc : Option CommentGroup) (name : Option Ident) (path : BasicLit)
      (comment : Option CommentGroup) (endPos : Pos)
  | value (doc : Option CommentGroup) (names : List Ident) (type : Option Expr) (values : List Expr)
      (comment : Option CommentGroup)
  | type (doc : Option CommentGroup) (name : Ident) (typeParams : Option FieldList) (assign : Pos)
      (type : Expr) (comment : Option CommentGroup)

/-- A declaration. -/
inductive Decl where
  | bad (from_ to_ : Pos)
  /-- An import, constant, type or variable declaration; `lparen` is 0 without parentheses. -/
  | gen (doc : Option CommentGroup) (tokPos : Pos) (tok : Tok) (lparen : Pos) (specs : List Spec) (rparen : Pos)
  | func (doc : Option CommentGroup) (recv : Option FieldList) (name : Ident) (type : Expr)
      (body : Option Stmt)

end

/-- A source file: its documentation, package clause, declarations and all its comments. -/
structure File where
  doc : Option CommentGroup
  package : Pos
  name : Ident
  decls : List Decl
  comments : List CommentGroup
deriving Inhabited

instance : Inhabited Expr := ⟨.bad 0 0⟩
instance : Inhabited Stmt := ⟨.bad 0 0⟩
instance : Inhabited Decl := ⟨.bad 0 0⟩
instance : Inhabited FieldList := ⟨.mk 0 [] 0⟩

namespace Field

def doc : Field → Option CommentGroup | .mk d _ _ _ _ => d
def names : Field → List Ident | .mk _ n _ _ _ => n
def type : Field → Expr | .mk _ _ t _ _ => t
def tag : Field → Option BasicLit | .mk _ _ _ t _ => t
def comment : Field → Option CommentGroup | .mk _ _ _ _ c => c

end Field

namespace FieldList

def opening : FieldList → Pos | .mk o _ _ => o
def list : FieldList → List Field | .mk _ l _ => l
def closing : FieldList → Pos | .mk _ _ c => c

/-- The number of names a list declares, an unnamed field counting one. -/
def numFields (l : FieldList) : Nat :=
  l.list.foldl (fun n f => n + max 1 f.names.length) 0

end FieldList

end UpnpBind.GoSource
