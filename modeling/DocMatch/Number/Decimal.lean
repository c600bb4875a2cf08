import DocMatch.Number.Power
import DocMatch.Number.Scientific
import DocMatch.Text.Blank
/-!
Exact decimals: an integer of at most 96 bits over a power of ten of at most 28
places, kept without trailing zeros.  Because the form is canonical, two
decimals denote the same number exactly when they are the same.
-/

namespace DocMatch

/-- The number `coefficient / 10 ^ scale` without superfluous places. -/
structure Decimal where
  coefficient : Int
  scale : Nat
  coefficient_lt : coefficient.natAbs < twoTo 96
  scale_le : scale ≤ 28
  canonical : scale = 0 ∨ ¬ 10 ∣ coefficient.natAbs
deriving DecidableEq

namespace Decimal

/-- The coefficients that fit lie below this bound. -/
def coefficientBound : Nat := twoTo 96

/-- The greatest number of decimal places. -/
def maxScale : Nat := 28

/-- Drop trailing zeros after the point. -/
def stripZeros (coefficient : Nat) : Nat → Nat × Nat
  | 0 => (coefficient, 0)
  | scale + 1 =>
      if coefficient % 10 = 0 then stripZeros (coefficient / 10) scale
      else (coefficient, scale + 1)

/-- The decimal `± coefficient / 10 ^ scale`, if it is in range. -/
def ofScaled? (negative : Bool) (coefficient scale : Nat) : Option Decimal :=
  let (c, s) := stripZeros coefficient scale
  let signed : Int := if negative then -(c : Int) else c
  if h : signed.natAbs < twoTo 96 ∧ s ≤ 28 ∧ (s = 0 ∨ ¬ 10 ∣ signed.natAbs) then
    some ⟨signed, s, h.1, h.2.1, h.2.2⟩
  else none

/-- The integer as a decimal, if it is in range. -/
def ofInt? (i : Int) : Option Decimal :=
  ofScaled? (i < 0) i.natAbs 0

/-- Take up the digits after the point while coefficient and places fit.  The
first digit that does not fit rounds the rest, a half away from zero; the
rounding may carry out of the coefficient, which then gives up one place. -/
def absorb (coefficient scale : Nat) : List Nat → Option (Nat × Nat)
  | [] => some (coefficient, scale)
  | d :: rest =>
      if scale < maxScale ∧ coefficient * 10 + d < coefficientBound then
        absorb (coefficient * 10 + d) (scale + 1) rest
      else if d < 5 then some (coefficient, scale)
      else if coefficient + 1 < coefficientBound then some (coefficient + 1, scale)
      else if scale = 0 then none
      else some ((coefficient + 6) / 10, scale - 1)

/-- Whether a character may stand in the digits of a decimal text. -/
def isDigitOrSeparator (c : Char) : Bool :=
  c.isDigit || c == '_'

/-- The digits around the point: at least one digit, and underscores only after the first. -/
def readBase (s : List Char) : Option (Nat × Nat) :=
  let (whole, rest) := s.span isDigitOrSeparator
  let fraction := rest.drop 1
  let plain := rest.isEmpty || (rest.head? == some '.' && fraction.all isDigitOrSeparator)
  match whole ++ fraction with
  | [] => none
  | first :: _ =>
      if plain && first.isDigit then
        let units := Scientific.digitsValue (whole.filter Char.isDigit)
        if units < coefficientBound then
          absorb units 0 ((fraction.filter Char.isDigit).map Scientific.digitValue)
        else none
      else none

/-- Divide by `10 ^ places` to the nearest natural number, a half upwards. -/
def roundPlaces (n places : Nat) : Nat :=
  (n + tenTo places / 2) / tenTo places

/-- Move the point by an exponent of at most 28 in either direction.  Places
beyond 28 are rounded, a half away from zero. -/
def shiftPoint (coefficient scale : Nat) (exponent : Int) : Option (Nat × Nat) :=
  if exponent.natAbs > maxScale then none
  else
    let places := (scale : Int) - exponent
    if places < 0 then some (coefficient * tenTo places.natAbs, 0)
    else if places ≤ maxScale then some (coefficient, places.toNat)
    else some (roundPlaces coefficient (places.toNat - maxScale), maxScale)

/-- Read a decimal text: a sign, digits around a point, and an exponent. -/
def read? (s : List Char) : Option Decimal := do
  let (base, exponent) := Scientific.splitExponent s
  let (negative, digits) := Scientific.splitSign base
  let (coefficient, scale) ← readBase digits
  match exponent with
  | none => ofScaled? negative coefficient scale
  | some text =>
      let (c, s) ← shiftPoint coefficient scale (← Scientific.exponent? text)
      ofScaled? negative c s

/-- Write digits with `scale` of them after the point, at least one before it. -/
def placePoint (digits : List Char) (scale : Nat) : List Char :=
  if scale = 0 then digits
  else
    let padded := List.replicate (scale + 1 - digits.length) '0' ++ digits
    padded.take (padded.length - scale) ++ '.' :: padded.drop (padded.length - scale)

/-- The decimal in positional notation, without an exponent. -/
def text (d : Decimal) : String :=
  let digits := placePoint (Nat.toDigits 10 d.coefficient.natAbs) d.scale
  String.ofList (if d.coefficient < 0 then '-' :: digits else digits)

/-- The integer that the decimal denotes, if it is one. -/
def toInt? (d : Decimal) : Option Int :=
  if d.scale = 0 then some d.coefficient else none

end Decimal

end DocMatch
