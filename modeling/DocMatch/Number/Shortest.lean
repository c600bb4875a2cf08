import DocMatch.Number.Double
/-!
The shortest decimal that reads back as a given double.  The decimals that round
to a magnitude form an interval; the shortest of them lie on the coarsest grid
of a power of ten that has a point in the interval, and a grid that has one has
one of the two grid points around the magnitude itself.
-/

namespace DocMatch.Magnitude

/-- Quarters of a unit in one; the interval of a magnitude ends on whole quarters. -/
def quartersPerOne : Nat := 4 * unitsPerOne

/-- The least decimal that may still round to the magnitude, in quarters of a unit.
Below a power of two the neighbour is only half as far away. -/
def lowerEnd (m : Magnitude) : Nat :=
  if m.significand = twoTo 52 ∧ m.shift ≠ 0 then 4 * m.units - twoTo m.shift
  else 4 * m.units - twoTo (m.shift + 1)

/-- The greatest decimal that may still round to the magnitude, in quarters of a unit. -/
def upperEnd (m : Magnitude) : Nat :=
  4 * m.units + twoTo (m.shift + 1)

/-- Whether `n / d` quarters round to the magnitude.  A half goes to the even
significand, so the ends belong to the interval of an even one. -/
def roundsHere (m : Magnitude) (n d : Nat) : Bool :=
  if m.significand % 2 = 0 then m.lowerEnd * d ≤ n && n ≤ m.upperEnd * d
  else m.lowerEnd * d < n && n < m.upperEnd * d

/-- The step of the grid of multiples of `10 ^ exponent`, as a fraction of quarters. -/
def gridStep (exponent : Int) : Nat × Nat :=
  if 0 ≤ exponent then (tenTo exponent.toNat * quartersPerOne, 1)
  else (quartersPerOne, tenTo exponent.natAbs)

/-- The multiple of `10 ^ exponent` that rounds to the magnitude and is nearest
to it; of two equally near ones the even multiple. -/
def onGrid? (m : Magnitude) (exponent : Int) : Option Nat :=
  let (step, d) := gridStep exponent
  let value := 4 * m.units * d
  let below := value / step
  match m.roundsHere (below * step) d, m.roundsHere ((below + 1) * step) d with
  | false, false => none
  | true, false => some below
  | false, true => some (below + 1)
  | true, true =>
      let toBelow := value - below * step
      let toAbove := (below + 1) * step - value
      if toBelow < toAbove then some below
      else if toAbove < toBelow then some (below + 1)
      else some (below + below % 2)

/-- Coefficient and exponent of the shortest decimal that reads back as the
magnitude.  The grids from `10 ^ 308` down to `10 ^ -324` suffice for all. -/
def shortest (m : Magnitude) : Nat × Int :=
  if m.significand = 0 then (0, 0)
  else
    ((List.range 633).findSome? fun (i : Nat) =>
      let exponent : Int := 308 - i
      (m.onGrid? exponent).map fun n => (n, exponent)).getD (0, 0)

end DocMatch.Magnitude
