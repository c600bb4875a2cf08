import DocMatch.Number.Decimal
import DocMatch.Number.Double
/-!
Arithmetic of doubles, without their sign.  An operation gives the magnitude nearest to the exact
result, a half going to the even significand, and none if that is beyond the greatest finite one.
-/

namespace DocMatch

namespace Magnitude

/-- A natural number, rounded. -/
def ofNat? (n : Nat) : Option Magnitude :=
  nearest? n 1

/-- The rounded sum. -/
def add? (a b : Magnitude) : Option Magnitude :=
  nearest? (a.units + b.units) unitsPerOne

/-- The rounded product. -/
def mul? (a b : Magnitude) : Option Magnitude :=
  nearest? (a.units * b.units) (unitsPerOne * unitsPerOne)

/-- The rounded quotient by a magnitude other than zero. -/
def div? (a b : Magnitude) : Option Magnitude :=
  nearest? a.units b.units

/-- The nearest natural number, the greater one of two that are as near. -/
def nearestNat (a : Magnitude) : Nat :=
  (2 * a.units + unitsPerOne) / (2 * unitsPerOne)

end Magnitude

namespace Decimal

/-- The magnitude that `coefficient / 10 ^ scale` is read as.  Whole part and fraction are
converted and added up, and what the sum is off by is rounded away at the last place.  Every step
rounds, so the outcome is next to the value but not always nearest to it. -/
def magnitude? (coefficient scale : Nat) : Option Magnitude :=
  if scale = 0 then Magnitude.ofNat? coefficient
  else do
    let power ← Magnitude.ofNat? (tenTo scale)
    let whole ← Magnitude.ofNat? (coefficient / tenTo scale)
    let fraction ← (← Magnitude.ofNat? (coefficient % tenTo scale)).div? power
    if fraction.significand = 0 then return whole
    let scaled ← (← whole.add? fraction).mul? power
    (← Magnitude.ofNat? scaled.nearestNat).div? power

/-- The double that the decimal is read as when it is held with `zeros` zeros after its places. -/
def toDoubleWith (d : Decimal) (zeros : Nat) : Double :=
  match magnitude? (d.coefficient.natAbs * tenTo zeros) (d.scale + zeros) with
  | some m => .finite (d.coefficient < 0) m
  | none => .infinite (d.coefficient < 0)

/-- The double that the decimal is read as.  Decimals of this library hold no zeros after their
places. -/
def toDouble (d : Decimal) : Double :=
  d.toDoubleWith 0

end Decimal

end DocMatch
