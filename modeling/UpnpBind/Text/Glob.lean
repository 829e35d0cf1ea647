/-!
# File name patterns

A pattern matches a whole name: `*` matches any run of characters other than
`/`, `?` any one character other than `/`, a class `[...]` one character in
(or with `[^...]` not in) its characters and ranges `lo-hi`, and `\` takes the
next character literally; every other character matches itself. A malformed
pattern (an unclosed class, a class without items, a lone `\` at the end)
matches nothing.
-/

namespace UpnpBind.Text

/-- One item of a pattern. -/
inductive GlobItem where
  | star
  | any
  | literal (c : Char)
  | charClass (negated : Bool) (ranges : List (Char × Char))
deriving Repr, DecidableEq, Inhabited

/-- One character of a class, escaped or not, and the rest; none where a
class may not hold one, or when the pattern ends with it. -/
def classChar : List Char → Option (Char × List Char)
  | [] => none
  | '-' :: _ => none
  | ']' :: _ => none
  | '\\' :: c :: rest => if rest.isEmpty then none else some (c, rest)
  | '\\' :: [] => none
  | c :: rest => if rest.isEmpty then none else some (c, rest)

/-- The ranges of a class up to its closing `]`, and the rest of the pattern. -/
def classRanges : Nat → List (Char × Char) → List Char → Option (List (Char × Char) × List Char)
  | 0, _, _ => none
  | fuel + 1, acc, p =>
    match p with
    | ']' :: rest => if acc.isEmpty then none else some (acc.reverse, rest)
    | _ => do
      let (lo, rest) ← classChar p
      match rest with
      | '-' :: more =>
        let (hi, rest) ← classChar more
        classRanges fuel ((lo, hi) :: acc) rest
      | _ => classRanges fuel ((lo, lo) :: acc) rest

/-- The items of a pattern; none when it is malformed. -/
def globItems : Nat → List Char → Option (List GlobItem)
  | 0, _ => none
  | _ + 1, [] => some []
  | fuel + 1, '*' :: rest => (globItems fuel rest).map (.star :: ·)
  | fuel + 1, '?' :: rest => (globItems fuel rest).map (.any :: ·)
  | fuel + 1, '\\' :: c :: rest => (globItems fuel rest).map (.literal c :: ·)
  | _ + 1, '\\' :: [] => none
  | fuel + 1, '[' :: rest =>
    let (negated, body) := match rest with
      | '^' :: more => (true, more)
      | more => (false, more)
    match classRanges (body.length + 1) [] body with
    | none => none
    | some (ranges, rest) => (globItems fuel rest).map (.charClass negated ranges :: ·)
  | fuel + 1, c :: rest => (globItems fuel rest).map (.literal c :: ·)

/-- Whether one character matches an item other than a star. -/
def GlobItem.matchesChar (item : GlobItem) (c : Char) : Bool :=
  match item with
  | .star => c != '/'
  | .any => c != '/'
  | .literal l => c == l
  | .charClass negated ranges => (ranges.any fun (lo, hi) => lo ≤ c && c ≤ hi) != negated

/-- Whether items match a whole name. -/
def matchItems : List GlobItem → List Char → Bool
  | [], name => name.isEmpty
  | .star :: rest, name =>
    matchItems rest name ||
      match name with
      | c :: cs => c != '/' && matchItems (.star :: rest) cs
      | [] => false
  | item :: rest, name =>
    match name with
    | c :: cs => item.matchesChar c && matchItems rest cs
    | [] => false
termination_by items name => (name.length, items.length)

/-- Whether a pattern matches a whole name. -/
def globMatch (pattern name : String) : Bool :=
  match globItems (pattern.length + 1) pattern.toList with
  | some items => matchItems items name.toList
  | none => false

end UpnpBind.Text
