import DocMatch.Unicode.Runs
/-!
Sets of code points as lists of intervals: in increasing order, with a code point
between any two that lies in neither.
-/

namespace DocMatch.Unicode

/-- The code points from `first` to `last`. -/
structure CodeRange where
  first : Nat
  last : Nat
deriving DecidableEq, Repr

/-- Whether a code point lies in the interval. -/
def CodeRange.contains (i : CodeRange) (n : Nat) : Bool :=
  i.first ≤ n && n ≤ i.last

/-- The last code point. -/
def lastCodePoint : Nat := 0x10FFFF

/-- Add an interval to a set.  The intervals that it meets or touches join it. -/
def insertRange (added : CodeRange) : List CodeRange → List CodeRange
  | [] => [added]
  | i :: rest =>
      if added.last + 1 < i.first then added :: i :: rest
      else if i.last + 1 < added.first then i :: insertRange added rest
      else insertRange ⟨min added.first i.first, max added.last i.last⟩ rest

/-- Adding an interval adds its code points and no others. -/
theorem any_contains_insertRange {added : CodeRange} {ranges : List CodeRange}
    (hadded : added.first ≤ added.last) (hranges : ∀ i ∈ ranges, i.first ≤ i.last) (n : Nat) :
    (insertRange added ranges).any (·.contains n) =
      (added.contains n || ranges.any (·.contains n)) := by
  fun_induction insertRange added ranges with
  | case1 => simp
  | case2 => simp
  | case3 added i rest _ _ ih =>
      simp only [List.any_cons, ih hadded fun j hj => hranges j (by simp [hj])]
      cases i.contains n <;> cases added.contains n <;> simp
  | case4 added i rest hbefore hafter ih =>
      have hi := hranges i (by simp)
      rw [ih (by simp only; omega) fun j hj => hranges j (by simp [hj]), List.any_cons,
        ← Bool.or_assoc]
      congr 1
      simp only [CodeRange.contains]
      grind

/-- The union of intervals in any order. -/
def unionOfRanges (ranges : List CodeRange) : List CodeRange :=
  ranges.foldr insertRange []

/-- The code points from `start` on that lie in none of the intervals. -/
def gapsFrom (start : Nat) : List CodeRange → List CodeRange
  | [] => if start ≤ lastCodePoint then [⟨start, lastCodePoint⟩] else []
  | i :: rest =>
      if start < i.first then ⟨start, i.first - 1⟩ :: gapsFrom (i.last + 1) rest
      else gapsFrom (i.last + 1) rest

/-- The intervals of a run. -/
def Run.ranges (r : Run) : List CodeRange :=
  if r.step = 1 then [⟨r.first, r.last⟩]
  else (List.range ((r.last - r.first) / r.step + 1)).map fun k =>
    ⟨r.first + k * r.step, r.first + k * r.step⟩

/-- The intervals of the union of runs. -/
def rangesOfRuns (runs : List Run) : List CodeRange :=
  unionOfRanges (runs.flatMap Run.ranges)

/-- The part of a run that lies in an interval. -/
def Run.within (r : Run) (i : CodeRange) : Option Run :=
  let first :=
    if r.first < i.first then r.first + (i.first - r.first + r.step - 1) / r.step * r.step
    else r.first
  let last := min r.last i.last
  if first ≤ last then some ⟨first, last, r.step⟩ else none

/-- A run moved by a distance. -/
def Run.move (r : Run) (distance : Int) : Run :=
  ⟨(r.first + distance).toNat, (r.last + distance).toNat, r.step⟩

end DocMatch.Unicode
