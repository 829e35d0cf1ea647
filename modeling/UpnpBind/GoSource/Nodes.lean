import UpnpBind.GoSource.Printer
import UpnpBind.GoSource.Parser

/-!
# Laying out syntax trees

The layout of each kind of node: which tokens it prints, where blanks, tab
stops and line breaks go, and which line breaks of the source it keeps.

* Lists of expressions keep the source's line breaks between elements; keyed
  elements on lines of their own get a column for their keys, which aligns
  with the neighbours' unless the key sizes differ too much (a ratio of 2.5
  to their geometric mean).
* Binary expressions drop the blanks around the tighter-binding operators
  when precedences mix, so the grouping shows.
* Struct fields, grouped constants and variables, and trailing comments go in
  columns; a group breaks at blank lines and around multi-line entries.
* A function body that fits on the header's line in 100 columns, and was on
  one line in the source, stays on one line.

Sizes are found by laying a node out alone, without columns or comments.
-/

namespace UpnpBind.GoSource

open Pr

/-- How an expression list is laid out. -/
structure ListMode where
  /-- The list may end with a comma before a line break. -/
  commaTerm : Bool := false
  /-- A multi-line list gets no extra indentation. -/
  noIndent : Bool := false

/-- The kinds of parameter lists. -/
inductive ParamMode where
  | funcParam
  | funcTParam
  | typeTParam
deriving DecidableEq

/-- A node to measure. -/
inductive Piece where
  | expr (e : Expr)
  | stmt (s : Stmt)

/-- Whether a binary expression's operator on its right would read as another
token without a blank (`/*`, `&&`, `&^`), or as an increment; the cutoff needed. -/
def walkBinary : Nat → Expr → Bool × Bool × Nat
  | 0, _ => (false, false, 0)
  | fuel + 1, e@(.binary l _ op r) =>
    let prec := op.precedence
    let has4 := prec == 4
    let has5 := prec == 5
    let (has4, has5, mp) := match l with
      | .binary _ _ lop _ =>
        if lop.precedence < prec then (has4, has5, 0)
        else
          let (h4, h5, mp) := walkBinary fuel l
          (has4 || h4, has5 || h5, mp)
      | _ => (has4, has5, 0)
    match r with
    | .binary _ _ rop _ =>
      if rop.precedence ≤ prec then (has4, has5, mp)
      else
        let (h4, h5, mp2) := walkBinary fuel r
        (has4 || h4, has5 || h5, max mp mp2)
    | .star .. => (has4, has5, if op == .op "/" then 5 else mp)
    | .unary _ uop _ =>
      let s := Pr.tokText op ++ Pr.tokText uop
      if s == "/*" || s == "&&" || s == "&^" then (has4, has5, 5)
      else if s == "++" || s == "--" then (has4, has5, max mp 4)
      else (has4, has5, mp)
    | _ => let _ := e; (has4, has5, mp)
  | _ + 1, _ => (false, false, 0)

/-- The precedence from which a binary expression's operators get blanks. -/
def cutoff (e : Expr) (depth : Nat) : Nat :=
  let (has4, has5, maxProblem) := walkBinary 10000 e
  if maxProblem > 0 then maxProblem + 1
  else if has4 && has5 then (if depth == 1 then 5 else 4)
  else if depth == 1 then 6 else 4

/-- 0 when an expression is a binary one of the given precedence, else 1. -/
def diffPrec (e : Expr) (prec : Nat) : Nat :=
  match e with
  | .binary _ _ op _ => if op.precedence == prec then 0 else 1
  | _ => 1

/-- One level of depth less, at least 1. -/
def reduceDepth (depth : Nat) : Nat := max (depth - 1) 1

/-- Whether an expression is a binary one. -/
def isBinary : Expr → Bool
  | .binary .. => true
  | _ => false

/-- An expression without any parentheses around it. -/
def stripParensAlways : Expr → Expr
  | .paren _ x _ => stripParensAlways x
  | x => x

/-- Whether an expression is a possibly qualified name. -/
def isTypeName : Expr → Bool
  | .ident _ => true
  | .selector x _ => isTypeName x
  | _ => false

/-- Whether an unparenthesized composite literal of a named type occurs in
the expressions, which parentheses must then keep apart from a block. -/
def hasNamedLiteral : Nat → List Expr → Bool
  | 0, _ => false
  | _, [] => false
  | fuel + 1, x :: rest =>
    let inner : List Expr := match x with
      | .paren .. | .compositeLit .. | .bad .. | .ident _ | .basicLit _ => []
      | .ellipsis _ e => e.toList
      | .funcLit t _ => [t]
      | .selector e _ => [e]
      | .index e _ i _ => [e, i]
      | .indexList e _ is _ => e :: is
      | .slice e _ a b c _ _ => e :: a.toList ++ b.toList ++ c.toList
      | .typeAssert e _ t _ => e :: t.toList
      | .call f _ args _ _ => f :: args
      | .star _ e | .unary _ _ e => [e]
      | .binary a _ _ b => [a, b]
      | .keyValue k _ v => [k, v]
      | .arrayType _ l e => l.toList ++ [e]
      | .mapType _ k v => [k, v]
      | .chanType _ _ _ v => [v]
      | .structType .. | .funcType .. | .interfaceType .. => []
    let here := match x with
      | .compositeLit (some t) _ _ _ _ => isTypeName t
      | _ => false
    here || hasNamedLiteral fuel (inner ++ rest)

/-- An expression without parentheses, unless they keep a composite literal of a
named type from reading as a block. -/
def stripParens (fuel : Nat) : Expr → Expr
  | x@(.paren _ inner _) =>
    if hasNamedLiteral 100000 [inner] then x
    else match fuel with
      | 0 => inner
      | f + 1 => stripParens f inner
  | x => x

/-- Whether a name followed by the type reads as an expression, as in `P *T`. -/
def combinesWithName : Expr → Bool
  | .star _ x => !isTypeElem x
  | .binary x _ _ y => combinesWithName x && !isTypeElem y
  | _ => false

/-- The size of a list of names, up to a limit. -/
def identListSize (list : List Ident) (maxSize : Nat) : Nat :=
  list.zipIdx.foldl (fun size (x, i) =>
    if size ≥ maxSize then size else size + (if i > 0 then 2 else 0) + x.name.length) 0

/-- Which specifications of a group must keep their type column: the runs of
specifications with values in which some specification has a type. -/
def keepTypeColumn (specs : List Spec) : List Bool :=
  let info := specs.map fun
    | .value _ _ t vs _ => (!vs.isEmpty, t.isSome)
    | _ => (false, false)
  let n := info.length
  let (m, run, keep) := info.zipIdx.foldl (fun (m, run, keep) ((hasValues, hasType), i) =>
    let (m, run, keep) :=
      if hasValues then
        match run with
        | none => (m, some i, false)
        | some _ => (m, run, keep)
      else
        match run with
        | some i0 => ((List.range' i0 (i - i0)).foldl (fun m k => if keep then m.set k true else m) m, none, keep)
        | none => (m, none, keep)
    (m, run, keep || hasType)) (List.replicate n false, none, false)
  match run with
  | some i0 => (List.range' i0 (n - i0)).foldl (fun m k => if keep then m.set k true else m) m
  | none => m

/-- A number literal with lower-case base prefixes and exponents, and without
the leading zeros of an integer imaginary literal. -/
def normalizedNumber (lit : BasicLit) : BasicLit :=
  if !(lit.kind == .int || lit.kind == .float || lit.kind == .imag) || lit.value.length < 2 then lit
  else
    let x := lit.value.toList
    let replaceLast (cs : List Char) (c d : Char) : List Char :=
      match cs.reverse.findIdx? (· == c) with
      | some k => let i := cs.length - 1 - k; cs.set i d
      | none => cs
    let y : Option (List Char) := match x with
      | '0' :: 'X' :: rest => some (replaceLast ('0' :: 'x' :: rest) 'P' 'p')
      | '0' :: 'x' :: _ => if x.contains 'P' then some (replaceLast x 'P' 'p') else none
      | '0' :: 'O' :: rest => some ('0' :: 'o' :: rest)
      | '0' :: 'o' :: _ => none
      | '0' :: 'B' :: rest => some ('0' :: 'b' :: rest)
      | '0' :: 'b' :: _ => none
      | _ =>
        if x.contains 'E' then some (replaceLast x 'E' 'e')
        else if x.getLast? == some 'i' && !(x.contains '.' || x.contains 'e') then
          let t := x.dropWhile (fun c => c == '0' || c == '_')
          some (if t == ['i'] then ['0', 'i'] else t)
        else none
    match y with
    | some v => { lit with value := String.ofList v }
    | none => lit

/-- The number of source lines a declaration spans. -/
def numLines (p : Printer) (d : Decl) : Nat :=
  if d.pos != 0 && d.end_ != 0 then p.lineFor d.end_ - p.lineFor d.pos + 1 else infinity

/-- The number of labels in front of a statement. -/
def labelDepth : Nat → Stmt → Nat
  | 0, _ => 0
  | fuel + 1, .labeled _ _ s => labelDepth fuel s + 1
  | _, _ => 0

/-- Whether a result list looks better indented as a whole: it spans lines and
has an element starting on a later line than the previous one ends, or more
than one multi-line element. -/
def indentList (list : List Expr) : Pr Bool := do
  match list with
  | first :: _ :: _ =>
    let b ← lineFor first.pos
    let e ← lineFor (list.getLast?.map Expr.end_ |>.getD 0)
    if 0 < b && b < e then
      let mut n := 0
      let mut line := b
      for x in list do
        let xb ← lineFor x.pos
        let xe ← lineFor x.end_
        if line < xb then return true
        if xb < xe then n := n + 1
        line := xe
      return n > 1
    return false
  | _ => return false

/-- The output columns from a start column, when the source position is still
on the line of `startPos`. -/
def distanceFrom (startPos : Pos) (startOutCol : Nat) : Pr Nat := do
  let p ← get
  if startPos != 0 && p.pos.valid && (p.posFor startPos).line == p.pos.line then
    return p.out.column - startOutCol
  return infinity

/-- The declaration kind of a declaration. -/
def declToken : Decl → Tok
  | .gen _ _ tok _ _ _ => tok
  | .func .. => .kw "func"
  | .bad .. => .illegal

/-- The documentation of a declaration. -/
def declDoc : Decl → Option CommentGroup
  | .gen doc .. => doc
  | .func doc .. => doc
  | .bad .. => none

mutual

/-- Prints an expression in a context binding at `prec1`. -/
def expr1 : Nat → Expr → Nat → Nat → Pr Unit
  | 0, _, _, _ => pure ()
  | n + 1, x, prec1, depth => do
    setPos x.pos
    match x with
    | .bad .. => text "BadExpr"
    | .ident i => ident i
    | .binary .. => binaryExpr n x prec1 (cutoff x (max depth 1)) (max depth 1)
    | .keyValue k c v =>
      expr1 n k 0 1
      setPos c
      token Tok.colon
      space .blank
      expr1 n v 0 1
    | .star _ e =>
      if Tok.unaryPrec < prec1 then
        token Tok.lparen
        token Tok.mul
        expr1 n e 0 1
        token Tok.rparen
      else
        token Tok.mul
        expr1 n e 0 1
    | .unary _ op e =>
      if Tok.unaryPrec < prec1 then
        token Tok.lparen
        expr1 n x 0 1
        token Tok.rparen
      else
        token op
        if op == .kw "range" then space .blank
        expr1 n e Tok.unaryPrec depth
    | .basicLit l =>
      let l := if (← get).normalizeNumbers then normalizedNumber l else l
      literal l
    | .funcLit t body =>
      setPos t.pos
      token (.kw "func")
      let startCol := (← get).out.column - 4
      signature n t
      funcBody n (← distanceFrom t.pos startCol) .blank (some body)
    | .paren _ e rp =>
      match e with
      | .paren .. => expr1 n e 0 depth
      | _ =>
        token Tok.lparen
        expr1 n e 0 (reduceDepth depth)
        setPos rp
        token Tok.rparen
    | .selector e sel => discard <| selectorExpr n e sel depth false
    | .typeAssert e lp t rp =>
      expr1 n e Tok.highestPrec depth
      token Tok.period
      setPos lp
      token Tok.lparen
      match t with
      | some t => expr1 n t 0 1
      | none => token (.kw "type")
      setPos rp
      token Tok.rparen
    | .index e lb i rb =>
      expr1 n e Tok.highestPrec 1
      setPos lb
      token Tok.lbrack
      expr1 n i 0 (depth + 1)
      setPos rb
      token Tok.rbrack
    | .indexList e lb is rb =>
      expr1 n e Tok.highestPrec 1
      setPos lb
      token Tok.lbrack
      exprList n lb is (depth + 1) { commaTerm := true } rb
      setPos rb
      token Tok.rbrack
    | .slice e lb lo hi mx _ rb =>
      expr1 n e Tok.highestPrec 1
      setPos lb
      token Tok.lbrack
      let indices := [lo, hi] ++ (if mx.isSome then [mx] else [])
      let present := indices.filterMap id
      let needsBlanks := depth ≤ 1 && present.length > 1 && present.any isBinary
      for (ix, i) in indices.zipIdx do
        if i > 0 then
          if (indices.getD (i - 1) none).isSome && needsBlanks then space .blank
          token Tok.colon
          if ix.isSome && needsBlanks then space .blank
        if let some e := ix then expr1 n e 0 (depth + 1)
      setPos rb
      token Tok.rbrack
    | .call f lp args ell rp =>
      let depth := if args.length > 1 then depth + 1 else depth
      let paren := match f with
        | .funcType .. => true
        | .chanType _ _ .recv _ => true
        | _ => false
      if paren then token Tok.lparen
      let wasIndented ← possibleSelectorExpr n f Tok.highestPrec depth
      if paren then token Tok.rparen
      setPos lp
      token Tok.lparen
      if ell != 0 then
        exprList n lp args depth {} ell
        setPos ell
        token Tok.ellipsis
        if rp != 0 && (← lineFor ell) < (← lineFor rp) then
          token Tok.comma
          space .formfeed
      else exprList n lp args depth { commaTerm := true } rp
      setPos rp
      token Tok.rparen
      if wasIndented then space .unindent
    | .compositeLit t lb elts rb _ =>
      if let some t := t then expr1 n t Tok.highestPrec depth
      modify fun p => { p with level := p.level + 1 }
      setPos lb
      token Tok.lbrace
      exprList n lb elts 1 { commaTerm := true } rb
      let blankMode := !elts.isEmpty
      space .indent
      space .unindent
      toggleMode blankMode true
      setPos rb
      token Tok.rbrace
      toggleMode blankMode true
      modify fun p => { p with level := p.level - 1 }
    | .ellipsis _ elt =>
      token Tok.ellipsis
      if let some e := elt then expr1 n e 0 1
    | .arrayType _ len elt =>
      token Tok.lbrack
      if let some l := len then expr1 n l 0 1
      token Tok.rbrack
      expr1 n elt 0 1
    | .structType _ fl _ =>
      token (.kw "struct")
      fieldList n fl true
    | .funcType .. =>
      token (.kw "func")
      signature n x
    | .interfaceType _ fl _ =>
      token (.kw "interface")
      fieldList n fl false
    | .mapType _ k v =>
      token (.kw "map")
      token Tok.lbrack
      expr1 n k 0 1
      token Tok.rbrack
      expr1 n v 0 1
    | .chanType _ arrow dir v =>
      match dir with
      | .both => token (.kw "chan")
      | .recv =>
        token Tok.arrow
        token (.kw "chan")
      | .send =>
        token (.kw "chan")
        setPos arrow
        token Tok.arrow
      space .blank
      expr1 n v 0 1
termination_by structural f => f

/-- Prints a binary expression, with blanks around operators below the cutoff. -/
def binaryExpr : Nat → Expr → Nat → Nat → Nat → Pr Unit
  | 0, _, _, _, _ => pure ()
  | n + 1, x, prec1, cut, depth => do
    match x with
    | .binary l opPos op r =>
      let prec := op.precedence
      if prec < prec1 then
        token Tok.lparen
        expr1 n x 0 (reduceDepth depth)
        token Tok.rparen
        return
      let mut printBlank := decide (prec < cut)
      let mut ws := Space.indent
      expr1 n l prec (depth + diffPrec l prec)
      if printBlank then space .blank
      let xline := (← get).pos.line
      let yline ← lineFor r.pos
      setPos opPos
      token op
      if xline != yline && xline > 0 && yline > 0 then
        if (← linebreak yline 1 ws true) > 0 then
          ws := .ignore
          printBlank := false
      if printBlank then space .blank
      expr1 n r (prec + 1) (depth + 1)
      if ws == .ignore then space .unindent
    | _ => expr1 n x prec1 depth
termination_by structural f => f

/-- Prints a selector; whether it broke the line before the name. -/
def selectorExpr : Nat → Expr → Ident → Nat → Bool → Pr Bool
  | 0, _, _, _, _ => pure false
  | n + 1, e, sel, depth, isMethod => do
    expr1 n e Tok.highestPrec depth
    token Tok.period
    let line ← lineFor sel.pos
    let p ← get
    if p.pos.valid && p.pos.line < line then
      space .indent
      space .newline
      setPos sel.pos
      ident sel
      if !isMethod then space .unindent
      return true
    setPos sel.pos
    ident sel
    return false
termination_by structural f => f

/-- Prints the function of a call; whether a selector in it broke the line. -/
def possibleSelectorExpr : Nat → Expr → Nat → Nat → Pr Bool
  | 0, _, _, _ => pure false
  | n + 1, e, prec1, depth => do
    match e with
    | .selector x sel => selectorExpr n x sel depth true
    | _ =>
      expr1 n e prec1 depth
      return false
termination_by structural f => f

/-- Prints a list of expressions between two positions, keeping its line breaks. -/
def exprList : Nat → Pos → List Expr → Nat → ListMode → Pos → Pr Unit
  | 0, _, _, _, _, _ => pure ()
  | n + 1, prev0, list, depth, mode, next0 => do
    match list with
    | [] => pure ()
    | first :: _ =>
      let prev ← posFor prev0
      let next ← posFor next0
      let line ← lineFor first.pos
      let endLine ← lineFor (list.getLast?.map Expr.end_ |>.getD 0)
      if prev.valid && prev.line == line && line == endLine then
        for (x, i) in list.zipIdx do
          if i > 0 then
            setPos x.pos
            token Tok.comma
            space .blank
          expr1 n x 0 depth
        return
      let mut ws := if mode.noIndent then Space.ignore else .indent
      let mut prevBreak : Int := -1
      if prev.valid && prev.line < line then
        if (← linebreak line 0 ws true) > 0 then
          ws := .ignore
          prevBreak := 0
      let mut size := 0
      let mut lnsum : Float := 0
      let mut count := 0
      let mut prevLine := prev.line
      for (x, i) in list.zipIdx do
        let line ← lineFor x.pos
        let mut useFF := true
        let prevSize := size
        size ← nodeSize n (.expr x) 1000000
        let pair : Option (Expr × Pos × Expr) := match x with
          | .keyValue k c v => some (k, c, v)
          | _ => none
        if size ≤ 1000000 && prev.valid && next.valid then
          if let some (k, _, _) := pair then size ← nodeSize n (.expr k) 1000000
        else size := 0
        if prevSize > 0 && size > 0 then
          if count == 0 || (prevSize ≤ 40 && size ≤ 40) then useFF := false
          else
            let geomean := Float.exp (lnsum / count.toFloat)
            let ratio := size.toFloat / geomean
            useFF := 2.5 * ratio ≤ 1 || 2.5 ≤ ratio
        let needsLinebreak := 0 < prevLine && prevLine < line
        if i > 0 then
          if !needsLinebreak then setPos x.pos
          token Tok.comma
          let mut needsBlank := true
          if needsLinebreak then
            let nbreaks ← linebreak line 0 ws (useFF || prevBreak + 1 < (i : Int))
            if nbreaks > 0 then
              ws := .ignore
              prevBreak := i
              needsBlank := false
            if nbreaks > 1 then
              lnsum := 0
              count := 0
          if needsBlank then space .blank
        match pair with
        | some (k, c, v) =>
          if list.length > 1 && size > 0 && needsLinebreak then
            expr1 n k 0 1
            setPos c
            token Tok.colon
            space .vtab
            expr1 n v 0 1
          else expr1 n x 0 depth
        | none => expr1 n x 0 depth
        if size > 0 then
          lnsum := lnsum + Float.log size.toFloat
          count := count + 1
        prevLine ← lineFor x.end_
      if mode.commaTerm && next.valid && (← get).pos.line < next.line then
        token Tok.comma
        if ws == .ignore && !mode.noIndent then space .unindent
        space .formfeed
        return
      if ws == .ignore && !mode.noIndent then space .unindent
termination_by structural f => f

/-- Prints a list of names. -/
def identList : Nat → List Ident → Bool → Pr Unit
  | 0, _, _ => pure ()
  | n + 1, list, indent => exprList n 0 (list.map Expr.ident) 1 { noIndent := !indent } 0
termination_by structural f => f

/-- Prints a parameter, type parameter or result list. -/
def parameters : Nat → FieldList → ParamMode → Pr Unit
  | 0, _, _ => pure ()
  | n + 1, fl, mode => do
    let (openTok, closeTok) := if mode == .funcParam then (Tok.lparen, Tok.rparen) else (Tok.lbrack, Tok.rbrack)
    setPos fl.opening
    token openTok
    if !fl.list.isEmpty then
      let mut prevLine ← lineFor fl.opening
      let mut ws := Space.indent
      for (par, i) in fl.list.zipIdx do
        let parLineBeg ← lineFor par.pos
        let parLineEnd ← lineFor par.type.pos
        let needsLinebreak := 0 < prevLine && prevLine < parLineBeg
        if i > 0 then
          if !needsLinebreak then setPos par.pos
          token Tok.comma
        let broke ← if needsLinebreak then do pure (decide ((← linebreak parLineBeg 0 ws true) > 0)) else pure false
        if broke then ws := .ignore
        else if i > 0 then space .blank
        if !par.names.isEmpty then
          identList n par.names (ws == .indent)
          space .blank
        expr1 n (stripParensAlways par.type) 0 1
        prevLine := parLineEnd
      let closing ← lineFor fl.closing
      if 0 < prevLine && prevLine < closing then
        token Tok.comma
        discard <| linebreak closing 0 .ignore true
      else if mode == .typeTParam && fl.numFields == 1 &&
          combinesWithName ((fl.list.head?.map Field.type).getD (.bad 0 0)) then
        token Tok.comma
      if ws == .ignore then space .unindent
    setPos fl.closing
    token closeTok
termination_by structural f => f

/-- Prints a signature: type parameters, parameters and results. -/
def signature : Nat → Expr → Pr Unit
  | 0, _ => pure ()
  | n + 1, sig => do
    match sig with
    | .funcType _ tparams params results =>
      if let some tp := tparams then parameters n tp .funcTParam
      parameters n params .funcParam
      match results with
      | some res =>
        let nres := res.numFields
        if nres > 0 then
          space .blank
          match res.list with
          | [f] =>
            if nres == 1 && f.names.isEmpty then
              expr1 n (stripParensAlways f.type) 0 1
              return
          | _ => pure ()
          parameters n res .funcParam
      | none => pure ()
    | _ => pure ()
termination_by structural f => f

/-- Whether a field list of one short field without tag or comment fits on one line. -/
def isOneLineFieldList : Nat → List Field → Pr Bool
  | 0, _ => pure false
  | n + 1, list => do
    match list with
    | [f] =>
      if f.tag.isSome || f.comment.isSome then return false
      let namesSize := if identListSize f.names 30 > 0 then 1 else 0
      let typeSize ← nodeSize n (.expr f.type) 30
      return namesSize + typeSize ≤ 30
    | _ => return false
termination_by structural f => f

/-- Prints the fields of a struct or the methods of an interface. -/
def fieldList : Nat → FieldList → Bool → Pr Unit
  | 0, _, _ => pure ()
  | n + 1, fl, isStruct => do
    let lbrace := fl.opening
    let rbrace := fl.closing
    let list := fl.list
    let hasComments ← commentBefore (← posFor rbrace)
    let srcIsOneLine := lbrace != 0 && rbrace != 0 && (← lineFor lbrace) == (← lineFor rbrace)
    if !hasComments && srcIsOneLine then
      if list.isEmpty then
        setPos lbrace
        token Tok.lbrace
        setPos rbrace
        token Tok.rbrace
        return
      else if ← isOneLineFieldList n list then
        setPos lbrace
        token Tok.lbrace
        space .blank
        match list with
        | f :: _ =>
          if isStruct then
            for (x, i) in f.names.zipIdx do
              if i > 0 then
                token Tok.comma
                space .blank
              expr1 n (.ident x) 0 1
            if !f.names.isEmpty then space .blank
            expr1 n f.type 0 1
          else
            match f.names with
            | name :: _ =>
              expr1 n (.ident name) 0 1
              signature n f.type
            | [] => expr1 n f.type 0 1
        | [] => pure ()
        space .blank
        setPos rbrace
        token Tok.rbrace
        return
    space .blank
    setPos lbrace
    token Tok.lbrace
    space .indent
    if hasComments || !list.isEmpty then space .formfeed
    let slot ← newSlot
    if isStruct then
      let sep := if list.length == 1 then Space.blank else .vtab
      for (f, i) in list.zipIdx do
        if i > 0 then
          let lf ← linesFrom slot
          discard <| linebreak (← lineFor f.pos) 1 .ignore (lf > 0)
        let mut extraTabs := 0
        setComment f.doc
        recordLine slot
        if !f.names.isEmpty then
          identList n f.names false
          space sep
          expr1 n f.type 0 1
          extraTabs := 1
        else
          expr1 n f.type 0 1
          extraTabs := 2
        if let some tag := f.tag then
          space sep
          expr1 n (.basicLit tag) 0 1
          extraTabs := 0
        if f.comment.isSome then
          for _ in [0:extraTabs] do space sep
          setComment f.comment
    else
      for (f, i) in list.zipIdx do
        if i > 0 then
          let lf ← linesFrom slot
          discard <| linebreak (← lineFor f.pos) 1 .ignore (lf > 0)
        setComment f.doc
        recordLine slot
        match f.names with
        | name :: _ =>
          expr1 n (.ident name) 0 1
          signature n f.type
        | [] => expr1 n f.type 0 1
        setComment f.comment
    space .unindent
    space .formfeed
    setPos rbrace
    token Tok.rbrace
termination_by structural f => f

/-- The size of a node laid out alone on one line, or `maxSize + 1` when it
is larger or takes more than one line. -/
def nodeSize : Nat → Piece → Nat → Pr Nat
  | 0, _, maxSize => pure (maxSize + 1)
  | n + 1, piece, maxSize => do
    let p ← get
    let fresh : Printer := { lines := p.lines, size := p.size, useNodeComments := true }
    let run : Pr Unit := do
      nextComment
      match piece with
      | .expr e => expr1 n e 0 1
      | .stmt s =>
        match s with
        | .labeled .. => modify fun p => { p with indent := 1 }
        | _ => pure ()
        stmt n s false
      modify fun p => { p with impliedSemi := false }
      discard <| flush ⟨infinity, infinity, 0⟩ .eof
    let ((), q) := run.run fresh
    let out := trim q.output
    if out.size ≤ maxSize && !(out.toList.contains 10) then return out.size
    return maxSize + 1
termination_by structural f => f

/-- Prints statements, one per line, keeping at most one blank line between them. -/
def stmtList : Nat → List Stmt → Nat → Bool → Pr Unit
  | 0, _, _, _ => pure ()
  | n + 1, list, nindent, nextIsRBrace => do
    if nindent > 0 then space .indent
    let slot ← newSlot
    let mut i := 0
    for s in list do
      match s with
      | .empty .. => pure ()
      | _ =>
        if (← get).output.size > 0 then
          let lf ← linesFrom slot
          discard <| linebreak (← lineFor s.pos) 1 .ignore (i == 0 || nindent == 0 || lf > 0)
        recordLine slot
        stmt n s (nextIsRBrace && i + 1 == list.length)
        let extra := labelDepth 1000 s
        modify fun p => { p with recorded := p.recorded.modify slot (· + extra) }
        i := i + 1
    if nindent > 0 then space .unindent
termination_by structural f => f

/-- Prints a block; it takes at least two lines. -/
def block : Nat → Stmt → Nat → Pr Unit
  | 0, _, _ => pure ()
  | n + 1, b, nindent => do
    match b with
    | .block lb list rb =>
      setPos lb
      token Tok.lbrace
      stmtList n list nindent true
      discard <| linebreak (← lineFor rb) 1 .ignore true
      setPos rb
      token Tok.rbrace
    | _ => stmt n b false
termination_by structural f => f

/-- Prints the header clauses of an if, switch or for statement. -/
def controlClause : Nat → Bool → Option Stmt → Option Expr → Option Stmt → Pr Unit
  | 0, _, _, _, _ => pure ()
  | n + 1, isFor, init, e, post => do
    space .blank
    let mut needsBlank := false
    if init.isNone && post.isNone then
      if let some e := e then
        expr1 n (stripParens 100000 e) 0 1
        needsBlank := true
    else
      if let some s := init then stmt n s false
      token Tok.semicolon
      space .blank
      if let some e := e then
        expr1 n (stripParens 100000 e) 0 1
        needsBlank := true
      if isFor then
        token Tok.semicolon
        space .blank
        needsBlank := false
        if let some s := post then
          stmt n s false
          needsBlank := true
    if needsBlank then space .blank
termination_by structural f => f

/-- Prints a statement. -/
def stmt : Nat → Stmt → Bool → Pr Unit
  | 0, _, _ => pure ()
  | n + 1, s, nextIsRBrace => do
    setPos s.pos
    match s with
    | .bad .. => text "BadStmt"
    | .decl d => decl n d
    | .empty .. => pure ()
    | .labeled label colon st =>
      space .unindent
      expr1 n (.ident label) 0 1
      setPos colon
      token Tok.colon
      space .indent
      match st with
      | .empty epos _ =>
        if !nextIsRBrace then
          space .newline
          setPos epos
          token Tok.semicolon
          return
      | _ => discard <| linebreak (← lineFor st.pos) 1 .ignore true
      stmt n st nextIsRBrace
    | .expr x => expr1 n x 0 1
    | .send ch arrow v =>
      expr1 n ch 0 1
      space .blank
      setPos arrow
      token Tok.arrow
      space .blank
      expr1 n v 0 1
    | .incDec x tp t =>
      expr1 n x 0 2
      setPos tp
      token t
    | .assign lhs tp t rhs =>
      let depth := if lhs.length > 1 && rhs.length > 1 then 2 else 1
      exprList n s.pos lhs depth {} tp
      space .blank
      setPos tp
      token t
      space .blank
      exprList n tp rhs depth {} 0
    | .go _ c =>
      token (.kw "go")
      space .blank
      expr1 n c 0 1
    | .defer _ c =>
      token (.kw "defer")
      space .blank
      expr1 n c 0 1
    | .return_ _ rs =>
      token (.kw "return")
      if !rs.isEmpty then
        space .blank
        if ← indentList rs then
          space .indent
          exprList n 0 rs 1 { noIndent := true } 0
          space .unindent
        else exprList n 0 rs 1 {} 0
    | .branch _ t label =>
      token t
      if let some l := label then
        space .blank
        expr1 n (.ident l) 0 1
    | .block .. => block n s 1
    | .if_ _ init cond body els =>
      token (.kw "if")
      controlClause n false init (some cond) none
      block n body 1
      if let some e := els then
        space .blank
        token (.kw "else")
        space .blank
        match e with
        | .block .. | .if_ .. => stmt n e nextIsRBrace
        | _ =>
          token Tok.lbrace
          space .indent
          space .formfeed
          stmt n e true
          space .unindent
          space .formfeed
          token Tok.rbrace
    | .caseClause _ list isDefault colon body =>
      if !isDefault then
        token (.kw "case")
        space .blank
        exprList n s.pos list 1 {} colon
      else token (.kw "default")
      setPos colon
      token Tok.colon
      stmtList n body 1 nextIsRBrace
    | .switch _ init tag body =>
      token (.kw "switch")
      controlClause n false init tag none
      block n body 0
    | .typeSwitch _ init assign body =>
      token (.kw "switch")
      if let some i := init then
        space .blank
        stmt n i false
        token Tok.semicolon
      space .blank
      stmt n assign false
      space .blank
      block n body 0
    | .commClause _ comm colon body =>
      match comm with
      | some c =>
        token (.kw "case")
        space .blank
        stmt n c false
      | none => token (.kw "default")
      setPos colon
      token Tok.colon
      stmtList n body 1 nextIsRBrace
    | .select _ body =>
      token (.kw "select")
      space .blank
      match body with
      | .block lb list rb =>
        if list.isEmpty && !(← commentBefore (← posFor rb)) then
          setPos lb
          token Tok.lbrace
          setPos rb
          token Tok.rbrace
        else block n body 0
      | _ => block n body 0
    | .for_ _ init cond post body =>
      token (.kw "for")
      controlClause n true init cond post
      block n body 1
    | .range _ key value tp t _ x body =>
      token (.kw "for")
      space .blank
      if let some k := key then
        expr1 n k 0 1
        if let some v := value then
          setPos v.pos
          token Tok.comma
          space .blank
          expr1 n v 0 1
        space .blank
        setPos tp
        token t
        space .blank
      token (.kw "range")
      space .blank
      expr1 n (stripParens 100000 x) 0 1
      space .blank
      block n body 1
termination_by structural f => f

/-- The size of a body on one line, or more than `maxSize` when it cannot be. -/
def bodySize : Nat → Stmt → Nat → Pr Nat
  | 0, _, maxSize => pure (maxSize + 1)
  | n + 1, b, maxSize => do
    match b with
    | .block lb list rb =>
      if lb != 0 && rb != 0 && (← lineFor lb) != (← lineFor rb) then return maxSize + 1
      if list.length > 5 then return maxSize + 1
      let mut size ← commentSizeBefore (← posFor rb)
      for (s, i) in list.zipIdx do
        if size > maxSize then break
        if i > 0 then size := size + 2
        size := size + (← nodeSize n (.stmt s) maxSize)
      return size
    | _ => return maxSize + 1
termination_by structural f => f

/-- Prints a function body, on the header's line when it is small and simple enough. -/
def funcBody : Nat → Nat → Space → Option Stmt → Pr Unit
  | 0, _, _, _ => pure ()
  | n + 1, headerSize, sep, body => do
    match body with
    | none => pure ()
    | some b =>
      let savedLevel := (← get).level
      modify fun p => { p with level := 0 }
      if headerSize + (← bodySize n b 100) ≤ 100 then
        match b with
        | .block lb list rb =>
          space sep
          setPos lb
          token Tok.lbrace
          if !list.isEmpty then
            space .blank
            for (s, i) in list.zipIdx do
              if i > 0 then
                token Tok.semicolon
                space .blank
              stmt n s (i + 1 == list.length)
            space .blank
          toggleMode false true
          setPos rb
          token Tok.rbrace
          toggleMode false true
        | _ => pure ()
      else
        if sep != .ignore then space .blank
        block n b 1
      modify fun p => { p with level := savedLevel }
termination_by structural f => f

/-- Prints a constant or variable specification of a group, in columns. -/
def valueSpec : Nat → Spec → Bool → Pr Unit
  | 0, _, _ => pure ()
  | n + 1, s, keepType => do
    match s with
    | .value doc names t values comment =>
      setComment doc
      identList n names false
      let mut extraTabs := 3
      if t.isSome || keepType then
        space .vtab
        extraTabs := extraTabs - 1
      if let some t := t then expr1 n t 0 1
      if !values.isEmpty then
        space .vtab
        token Tok.assign
        space .blank
        exprList n 0 values 1 {} 0
        extraTabs := extraTabs - 1
      if comment.isSome then
        for _ in [0:extraTabs] do space .vtab
        setComment comment
    | _ => spec n s 1 false
termination_by structural f => f

/-- Prints a specification; `count` is the number in its group. -/
def spec : Nat → Spec → Nat → Bool → Pr Unit
  | 0, _, _, _ => pure ()
  | n + 1, s, count, doIndent => do
    match s with
    | .import_ doc name path comment endPos =>
      setComment doc
      if let some nm := name then
        expr1 n (.ident nm) 0 1
        space .blank
      expr1 n (.basicLit path) 0 1
      setComment comment
      setPos endPos
    | .value doc names t values comment =>
      setComment doc
      identList n names doIndent
      if let some t := t then
        space .blank
        expr1 n t 0 1
      if !values.isEmpty then
        space .blank
        token Tok.assign
        space .blank
        exprList n 0 values 1 {} 0
      setComment comment
    | .type doc name tparams assign t comment =>
      setComment doc
      expr1 n (.ident name) 0 1
      if let some tp := tparams then parameters n tp .typeTParam
      space (if count == 1 then .blank else .vtab)
      if assign != 0 then
        token Tok.assign
        space .blank
      expr1 n t 0 1
      setComment comment
termination_by structural f => f

/-- Prints a general declaration, a group of specifications in parentheses or one alone. -/
def genDecl : Nat → Decl → Pr Unit
  | 0, _ => pure ()
  | n + 1, d => do
    match d with
    | .gen doc tokPos tok lparen specs rparen =>
      setComment doc
      setPos tokPos
      token tok
      space .blank
      if lparen != 0 || specs.length != 1 then
        setPos lparen
        token Tok.lparen
        if !specs.isEmpty then
          space .indent
          space .formfeed
          let slot ← newSlot
          let grouped := specs.length > 1 && (tok == .kw "const" || tok == .kw "var")
          let keep := keepTypeColumn specs
          for (s, i) in specs.zipIdx do
            if i > 0 then
              let lf ← linesFrom slot
              discard <| linebreak (← lineFor s.pos) 1 .ignore (lf > 0)
            recordLine slot
            if grouped then valueSpec n s (keep.getD i false)
            else spec n s specs.length false
          space .unindent
          space .formfeed
        setPos rparen
        token Tok.rparen
      else
        match specs with
        | s :: _ => spec n s 1 true
        | [] => pure ()
    | _ => decl n d
termination_by structural f => f

/-- Prints a function or method declaration. -/
def funcDecl : Nat → Decl → Pr Unit
  | 0, _ => pure ()
  | n + 1, d => do
    match d with
    | .func doc recv name t body =>
      setComment doc
      setPos d.pos
      token (.kw "func")
      space .blank
      let startCol := (← get).out.column - 5
      if let some r := recv then
        parameters n r .funcParam
        space .blank
      expr1 n (.ident name) 0 1
      signature n t
      funcBody n (← distanceFrom d.pos startCol) .vtab body
    | _ => decl n d
termination_by structural f => f

/-- Prints a declaration. -/
def decl : Nat → Decl → Pr Unit
  | 0, _ => pure ()
  | n + 1, d => do
    match d with
    | .bad f _ =>
      setPos f
      text "BadDecl"
    | .gen .. => genDecl n d
    | .func .. => funcDecl n d
termination_by structural f => f

end

/-- Prints the top-level declarations, a blank line between those of different
kinds or with documentation. -/
def declList (fuel : Nat) (list : List Decl) : Pr Unit := do
  let mut tok := Tok.illegal
  for d in list do
    let prev := tok
    tok := declToken d
    let p ← get
    if p.output.size > 0 then
      let min := if prev != tok || (declDoc d).isSome then 2 else 1
      discard <| linebreak (p.lineFor d.pos) min .ignore (tok == .kw "func" && numLines p d > 1)
    decl fuel d

/-- Prints a source file. -/
def printFile (fuel : Nat) (f : File) : Pr Unit := do
  setComment f.doc
  setPos f.package
  token (.kw "package")
  space .blank
  expr1 fuel (.ident f.name) 0 1
  declList fuel f.decls
  space .newline

/-- Lays out a parsed file: printed, aligned and cleaned. `normalizeNumbers`
writes number literals in their standard form. -/
def layoutFile (f : File) (lines : Array Nat) (size : Nat) (normalizeNumbers : Bool) : ByteArray :=
  let comments := f.comments.toArray
  let init : Printer := { lines, size, normalizeNumbers, comments, useNodeComments := comments.isEmpty }
  let fuel := 16 * size + 256
  let run : Pr Unit := do
    nextComment
    printFile fuel f
    modify fun p => { p with impliedSemi := false }
    discard <| flush ⟨infinity, infinity, 0⟩ .eof
  let ((), p) := run.run init
  trim (align p.output)

end UpnpBind.GoSource
