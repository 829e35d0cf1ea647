import UpnpBind.GoSource.Ast
import UpnpBind.Text.Letter
import UpnpBind.Text.Case

/-!
# Unused imports

An import is used when the file refers to an exported name of it, as
`name.Exported`, where `name` is the import's explicit name or else the name
its path suggests: the last path element (the one before a `vN` version
element), without a `go-` prefix, cut at the first character that cannot be in
an identifier. A name declared in the file, at the top level or in the
function where the reference stands, is not a package. Unused imports are
removed, and import declarations left empty with them; blank, dot and `"C"`
imports stay. An explicit name equal to the suggested one is dropped.
-/

namespace UpnpBind.GoSource

namespace ImportUse

/-- The last element of a slash-separated path. -/
def baseName (p : String) : String :=
  if p.isEmpty then "."
  else
    let trimmed := (p.toList.reverse.dropWhile (· == '/')).reverse
    if trimmed.isEmpty then "/"
    else String.ofList ((trimmed.reverse.takeWhile (· != '/')).reverse)

/-- The path without its last element. -/
def dirName (p : String) : String :=
  let cs := p.toList
  match cs.reverse.findIdx? (· == '/') with
  | some k =>
    let d := (cs.take (cs.length - 1 - k)).reverse.dropWhile (· == '/') |>.reverse
    if d.isEmpty then "/" else String.ofList d
  | none => "."

/-- Whether a text is a decimal integer, with an optional sign. -/
def isInteger (s : List Char) : Bool :=
  let digits := match s with
    | '+' :: r | '-' :: r => r
    | r => r
  !digits.isEmpty && digits.all Char.isDigit

/-- Whether a character can be in an identifier. -/
def identChar (c : Char) : Bool :=
  ('a' ≤ c && c ≤ 'z') || ('A' ≤ c && c ≤ 'Z') || ('0' ≤ c && c ≤ '9') || c == '_' ||
    (c.toNat ≥ 0x80 && (Text.isLetter c || Text.isDecimalDigit c))

/-- The package name an import path suggests. -/
def assumedName (path : String) : String :=
  let base := baseName path
  let base := match base.toList with
    | 'v' :: rest => if isInteger rest && dirName path != "." then baseName (dirName path) else base
    | _ => base
  let base := if base.startsWith "go-" then (base.drop 3).toString else base
  String.ofList (base.toList.takeWhile identChar)

/-- Whether a name is exported: it starts with an upper-case letter. -/
def isExported (name : String) : Bool :=
  match name.toList with
  | c :: _ => Text.isUpper c
  | [] => false

/-- The names a file declares at the top level. -/
def topNames (decls : List Decl) : List String :=
  decls.flatMap fun
    | .gen _ _ _ _ specs _ => specs.flatMap fun
      | .value _ names _ _ _ => names.map (·.name)
      | .type _ n _ _ _ _ => [n.name]
      | .import_ .. => []
    | .func _ recv name _ _ => if recv.isNone then [name.name] else []
    | .bad .. => []

mutual

/-- The names declared in an expression (by function literals) and the
package references in it, given the names in scope. -/
def exprRefs : Nat → Expr → List String × List String
  | 0, _ => ([], [])
  | n + 1, x =>
    match x with
    | .selector (.ident i) sel => ([], if isExported sel.name then [i.name] else [])
    | .selector e _ => exprRefs n e
    | .bad .. | .ident _ | .basicLit _ => ([], [])
    | .ellipsis _ e => optRefs n e
    | .funcLit t body =>
      let (d1, r1) := exprRefs n t
      let (d2, r2) := stmtRefs n body
      (d1 ++ d2, r1 ++ r2)
    | .compositeLit t _ elts _ _ => listRefs n (t.toList ++ elts)
    | .paren _ e _ => exprRefs n e
    | .index e _ i _ => listRefs n [e, i]
    | .indexList e _ is _ => listRefs n (e :: is)
    | .slice e _ a b c _ _ => listRefs n (e :: a.toList ++ b.toList ++ c.toList)
    | .typeAssert e _ t _ => listRefs n (e :: t.toList)
    | .call f _ args _ _ => listRefs n (f :: args)
    | .star _ e | .unary _ _ e => exprRefs n e
    | .binary a _ _ b => listRefs n [a, b]
    | .keyValue k _ v => listRefs n [k, v]
    | .arrayType _ l e => listRefs n (l.toList ++ [e])
    | .structType _ fl _ | .interfaceType _ fl _ => fieldsRefs n fl.list
    | .funcType _ tp ps rs =>
      let (d1, r1) := fieldsRefs n ((tp.map FieldList.list).getD [])
      let (d2, r2) := fieldsRefs n ps.list
      let (d3, r3) := fieldsRefs n ((rs.map FieldList.list).getD [])
      (d1 ++ d2 ++ d3, r1 ++ r2 ++ r3)
    | .mapType _ k v => listRefs n [k, v]
    | .chanType _ _ _ v => exprRefs n v

/-- The declared names and references of an optional expression. -/
def optRefs : Nat → Option Expr → List String × List String
  | 0, _ => ([], [])
  | _ + 1, none => ([], [])
  | n + 1, some e => exprRefs n e

/-- The declared names and references of expressions. -/
def listRefs : Nat → List Expr → List String × List String
  | 0, _ => ([], [])
  | _ + 1, [] => ([], [])
  | n + 1, e :: es =>
    let (d1, r1) := exprRefs n e
    let (d2, r2) := listRefs n es
    (d1 ++ d2, r1 ++ r2)

/-- The names fields declare and the references of their types. -/
def fieldsRefs : Nat → List Field → List String × List String
  | 0, _ => ([], [])
  | _ + 1, [] => ([], [])
  | n + 1, f :: fs =>
    let (d1, r1) := exprRefs n f.type
    let (d2, r2) := fieldsRefs n fs
    (f.names.map (·.name) ++ d1 ++ d2, r1 ++ r2)

/-- The names a statement declares and its references. -/
def stmtRefs : Nat → Stmt → List String × List String
  | 0, _ => ([], [])
  | n + 1, s =>
    match s with
    | .bad .. | .empty .. | .branch .. => ([], [])
    | .decl d => declRefs n d
    | .labeled _ _ st => stmtRefs n st
    | .expr x | .go _ x | .defer _ x => exprRefs n x
    | .send a _ b => listRefs n [a, b]
    | .incDec x _ _ => exprRefs n x
    | .assign lhs _ tok rhs =>
      let (d1, r1) := listRefs n (lhs ++ rhs)
      let declared := if tok == Tok.define then lhs.filterMap fun
          | .ident i => some i.name
          | _ => none
        else []
      (declared ++ d1, r1)
    | .return_ _ rs => listRefs n rs
    | .block _ list _ => stmtsRefs n list
    | .if_ _ init cond body els =>
      let (d1, r1) := optStmtRefs n init
      let (d2, r2) := exprRefs n cond
      let (d3, r3) := stmtRefs n body
      let (d4, r4) := optStmtRefs n els
      (d1 ++ d2 ++ d3 ++ d4, r1 ++ r2 ++ r3 ++ r4)
    | .caseClause _ list _ _ body =>
      let (d1, r1) := listRefs n list
      let (d2, r2) := stmtsRefs n body
      (d1 ++ d2, r1 ++ r2)
    | .switch _ init tag body =>
      let (d1, r1) := optStmtRefs n init
      let (d2, r2) := optRefs n tag
      let (d3, r3) := stmtRefs n body
      (d1 ++ d2 ++ d3, r1 ++ r2 ++ r3)
    | .typeSwitch _ init assign body =>
      let (d1, r1) := optStmtRefs n init
      let (d2, r2) := stmtRefs n assign
      let (d3, r3) := stmtRefs n body
      (d1 ++ d2 ++ d3, r1 ++ r2 ++ r3)
    | .commClause _ comm _ body =>
      let (d1, r1) := optStmtRefs n comm
      let (d2, r2) := stmtsRefs n body
      (d1 ++ d2, r1 ++ r2)
    | .select _ body => stmtRefs n body
    | .for_ _ init cond post body =>
      let (d1, r1) := optStmtRefs n init
      let (d2, r2) := optRefs n cond
      let (d3, r3) := optStmtRefs n post
      let (d4, r4) := stmtRefs n body
      (d1 ++ d2 ++ d3 ++ d4, r1 ++ r2 ++ r3 ++ r4)
    | .range _ key value _ tok _ x body =>
      let (d1, r1) := listRefs n (key.toList ++ value.toList ++ [x])
      let (d2, r2) := stmtRefs n body
      let declared := if tok == Tok.define then (key.toList ++ value.toList).filterMap fun
          | .ident i => some i.name
          | _ => none
        else []
      (declared ++ d1 ++ d2, r1 ++ r2)

/-- The declared names and references of an optional statement. -/
def optStmtRefs : Nat → Option Stmt → List String × List String
  | 0, _ => ([], [])
  | _ + 1, none => ([], [])
  | n + 1, some s => stmtRefs n s

/-- The declared names and references of statements. -/
def stmtsRefs : Nat → List Stmt → List String × List String
  | 0, _ => ([], [])
  | _ + 1, [] => ([], [])
  | n + 1, s :: ss =>
    let (d1, r1) := stmtRefs n s
    let (d2, r2) := stmtsRefs n ss
    (d1 ++ d2, r1 ++ r2)

/-- The declared names and references of a declaration. -/
def declRefs : Nat → Decl → List String × List String
  | 0, _ => ([], [])
  | n + 1, d =>
    match d with
    | .bad .. => ([], [])
    | .gen _ _ _ _ specs _ => specsRefs n specs
    | .func _ recv _ t body =>
      let (d1, r1) := fieldsRefs n ((recv.map FieldList.list).getD [])
      let (d2, r2) := exprRefs n t
      let (d3, r3) := optStmtRefs n body
      (d1 ++ d2 ++ d3, r1 ++ r2 ++ r3)

/-- The declared names and references of specifications. -/
def specsRefs : Nat → List Spec → List String × List String
  | 0, _ => ([], [])
  | _ + 1, [] => ([], [])
  | n + 1, s :: ss =>
    let (d1, r1) := match s with
      | .import_ .. => ([], [])
      | .value _ names t values _ =>
        let (d, r) := listRefs n (t.toList ++ values)
        (names.map (·.name) ++ d, r)
      | .type _ name tp _ t _ =>
        let (d1, r1) := fieldsRefs n ((tp.map FieldList.list).getD [])
        let (d2, r2) := exprRefs n t
        (name.name :: d1 ++ d2, r1 ++ r2)
    let (d2, r2) := specsRefs n ss
    (d1 ++ d2, r1 ++ r2)

end

/-- The package names a file refers to: in each top-level declaration, the
references that no name declared in it or at the top level accounts for. -/
def packageRefs (f : File) : List String :=
  let top := topNames f.decls
  let fuel := 100000
  f.decls.flatMap fun d =>
    let (declared, refs) := declRefs fuel d
    refs.filter fun r => !(top.contains r || declared.contains r)

/-- The name and path of an import specification. -/
def importInfo : Spec → Option (String × String)
  | .import_ _ name path _ _ =>
    let n := (name.map (·.name)).getD ""
    let v := path.value
    let p := String.ofList ((v.toList.dropWhile (· == '"')).reverse.dropWhile (· == '"')).reverse
    if v == "\"C\"" || n == "_" || n == "." then none else some (n, p)
  | _ => none

end ImportUse

open ImportUse

/-- The file without its unused imports, and without explicit import names
that repeat the suggested one. -/
def pruneImports (f : File) : File :=
  let refs := packageRefs f
  let used (n p : String) : Bool := refs.contains (if n.isEmpty then assumedName p else n)
  let keepSpec (s : Spec) : Option Spec :=
    match importInfo s with
    | some (n, p) =>
      if !used n p then none
      else match s with
        | .import_ doc (some nm) path c e =>
          if nm.name == assumedName p then some (.import_ doc none path c e) else some s
        | _ => some s
    | none => some s
  let decls := f.decls.filterMap fun d =>
    match d with
    | .gen doc tp tok lp specs rp =>
      if tok == .kw "import" then
        let specs' := specs.filterMap keepSpec
        if specs'.isEmpty && !specs.isEmpty then none else some (.gen doc tp tok lp specs' rp)
      else some d
    | _ => some d
  { f with decls }

end UpnpBind.GoSource
