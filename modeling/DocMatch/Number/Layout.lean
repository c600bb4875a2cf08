import DocMatch.Number.Decimal
import DocMatch.Number.Shortest
/-!
How the shortest digits of a double are laid out in a text.  A layout says which
decimal exponents are written positionally and how the rest is spelled.
-/

namespace DocMatch

/-- The choices of a text form for doubles. -/
structure Layout where
  /-- The range of decimal exponents written without an exponent; none means all. -/
  positional : Option (Int × Int)
  /-- Whether a whole number written positionally ends in `.0`. -/
  markWhole : Bool
  /-- Whether an exponent that is not negative has a plus sign. -/
  plusSign : Bool
deriving DecidableEq, Repr

namespace Layout

/-- Reports write a double positionally, and a whole one like an integer. -/
def plain : Layout := ⟨none, false, false⟩

/-- JSON texts write the exponents -5 to 15 positionally. -/
def json : Layout := ⟨some (-5, 15), true, true⟩

/-- Diagnostics write the exponents -4 to 15 positionally. -/
def debug : Layout := ⟨some (-4, 15), true, false⟩

/-- Whether a number with this decimal exponent is written positionally. -/
def isPositional (l : Layout) (exponent : Int) : Bool :=
  match l.positional with
  | none => true
  | some (low, high) => low ≤ exponent && exponent ≤ high

/-- The digits of `coefficient · 10 ^ exponent` without an exponent. -/
def positionalDigits (l : Layout) (digits : List Char) (exponent : Int) : List Char :=
  if 0 ≤ exponent then
    digits ++ List.replicate exponent.toNat '0' ++ (if l.markWhole then ".0".toList else [])
  else Decimal.placePoint digits exponent.natAbs

/-- One digit before the point, then the exponent. -/
def scientificDigits (l : Layout) (digits : List Char) (exponent : Int) : List Char :=
  let mantissa := if digits.length ≤ 1 then digits else digits.take 1 ++ '.' :: digits.drop 1
  let sign := if exponent < 0 then ['-'] else if l.plusSign then ['+'] else []
  mantissa ++ 'e' :: sign ++ Nat.toDigits 10 exponent.natAbs

/-- The text of a magnitude. -/
def magnitudeDigits (l : Layout) (m : Magnitude) : List Char :=
  let (coefficient, exponent) := m.shortest
  let digits := Nat.toDigits 10 coefficient
  let leading := exponent + digits.length - 1
  if l.isPositional leading then l.positionalDigits digits exponent
  else l.scientificDigits digits leading

/-- The text of a double. -/
def text (l : Layout) : Double → String
  | .finite negative m =>
      let digits := l.magnitudeDigits m
      String.ofList (if negative then '-' :: digits else digits)
  | .infinite negative => if negative then "-inf" else "inf"
  | .nan => "NaN"

end Layout

end DocMatch
