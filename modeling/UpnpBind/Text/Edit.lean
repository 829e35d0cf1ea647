/-!
# Editing texts

Literal search and replacement on character lists: prefix tests, substring
search, replacing every occurrence of a pattern, and trimming a character at
the end. An empty pattern occurs before every character and at the end.
Replacing a non-empty pattern, dropping elements and trimming work on lists of
any kind, so byte strings share them.
-/

namespace UpnpBind.Text

/-- Whether `pat` occurs in `s` at some position. -/
def containsList (s pat : List Char) : Bool :=
  match s with
  | [] => pat.isEmpty
  | c :: cs => pat.isPrefixOf (c :: cs) || containsList cs pat

/-- Whether `pat` occurs in `s`. -/
def contains (s pat : String) : Bool := containsList s.toList pat.toList

/-- Replaces, from left to right, every occurrence of a non-empty pattern. -/
def replaceNonEmpty {α : Type} [BEq α] [LawfulBEq α] (pat rep : List α) (h : pat ≠ []) (s : List α) : List α :=
  if _hp : pat.isPrefixOf s then
    rep ++ replaceNonEmpty pat rep h (s.drop pat.length)
  else
    match s with
    | [] => []
    | c :: cs => c :: replaceNonEmpty pat rep h cs
termination_by s.length
decreasing_by
  · have : 0 < pat.length := List.length_pos_iff.mpr h
    have : pat.length ≤ s.length := by
      have := List.IsPrefix.length_le (List.isPrefixOf_iff_prefix.mp _hp)
      exact this
    simp only [List.length_drop]
    omega
  · simp

/-- Replaces every occurrence of `pat` in `s` by `rep`, from left to right.
An empty pattern puts `rep` before every character and at the end. -/
def replaceList (s pat rep : List Char) : List Char :=
  if h : pat = [] then rep ++ s.flatMap (fun c => c :: rep)
  else replaceNonEmpty pat rep h s

/-- Replaces every occurrence of `pat` in `s` by `rep`. -/
def replaceAll (s pat rep : String) : String :=
  String.ofList (replaceList s.toList pat.toList rep.toList)

/-- Replaces the first occurrence of `pat` in `s` by `rep`; an empty pattern
puts `rep` at the front. -/
def replaceFirstList (s pat rep : List Char) : List Char :=
  if pat.isPrefixOf s then rep ++ s.drop pat.length
  else
    match s with
    | [] => []
    | c :: cs => c :: replaceFirstList cs pat rep

/-- Replaces the first occurrence of `pat` in `s` by `rep`. -/
def replaceFirst (s pat rep : String) : String :=
  String.ofList (replaceFirstList s.toList pat.toList rep.toList)

/-- Removes every occurrence of the given elements. -/
def dropAll {α : Type} [BEq α] (l xs : List α) : List α := l.filter (fun a => !xs.contains a)

/-- Removes every occurrence of the given characters. -/
def dropChars (s : String) (cs : List Char) : String := String.ofList (dropAll s.toList cs)

/-- Drops every trailing occurrence of `a`. -/
def trimRightList {α : Type} [BEq α] (l : List α) (a : α) : List α := (l.reverse.dropWhile (· == a)).reverse

/-- Drops every trailing occurrence of `c`. -/
def trimRightChar (s : String) (c : Char) : String := String.ofList (trimRightList s.toList c)

/-- Drops every leading occurrence of `c`. -/
def trimLeftChar (s : String) (c : Char) : String :=
  String.ofList (s.toList.dropWhile (· == c))

/-- The pieces of `s` between the occurrences of the separator `sep`; a text
without it is one piece, and the empty text is one empty piece. -/
def splitList (s : List Char) (sep : Char) : List (List Char) :=
  match s with
  | [] => [[]]
  | c :: cs =>
    if c = sep then [] :: splitList cs sep
    else match splitList cs sep with
      | [] => [[c]]
      | p :: ps => (c :: p) :: ps

/-- The pieces of `s` between the occurrences of `sep`. -/
def split (s : String) (sep : Char) : List String :=
  (splitList s.toList sep).map String.ofList

end UpnpBind.Text
