import DocMatch.Number.Power
import DocMatch.Number.Scientific
/-!
Doubles: the binary64 numbers, held by their exact values.  Every finite
magnitude is a whole number of units of `2 ^ -1074`, so rounding, comparison and
printing are arithmetic on natural numbers.
-/

namespace DocMatch

/-- A finite binary64 magnitude: `significand · 2 ^ shift` units of `2 ^ -1074`. -/
structure Magnitude where
  significand : Nat
  shift : Nat
  significand_lt : significand < twoTo 53
  shift_le : shift ≤ 2045
  canonical : shift = 0 ∨ twoTo 52 ≤ significand
deriving DecidableEq

/-- A binary64 number.  Zero has a sign, and there is one value that is no number. -/
inductive Double where
  | finite (negative : Bool) (magnitude : Magnitude)
  | infinite (negative : Bool)
  | nan
deriving DecidableEq

namespace Magnitude

/-- The number of units of `2 ^ -1074` in one. -/
def unitsPerOne : Nat := twoTo 1074

/-- The exact value in units of `2 ^ -1074`. -/
def units (m : Magnitude) : Nat :=
  m.significand * twoTo m.shift

/-- The magnitude zero. -/
def zero : Magnitude :=
  ⟨0, 0, by decide, by decide, Or.inl rfl⟩

/-- Divide to the nearest natural number; a half goes to the even neighbour. -/
def roundHalfEven (n d : Nat) : Nat :=
  let quotient := n / d
  let rest := 2 * (n % d)
  if rest < d then quotient
  else if d < rest then quotient + 1
  else quotient + quotient % 2

/-- The magnitude with this significand and shift, if it is in canonical form. -/
def ofParts? (significand shift : Nat) : Option Magnitude :=
  if h : significand < twoTo 53 ∧ shift ≤ 2045 ∧ (shift = 0 ∨ twoTo 52 ≤ significand) then
    some ⟨significand, shift, h.1, h.2.1, h.2.2⟩
  else none

/-- The magnitude nearest to `n / d`, a half going to the even significand;
none if that is beyond the greatest finite one. -/
def nearest? (n d : Nat) : Option Magnitude :=
  let scaled := n * unitsPerOne
  let shift := (scaled / d).log2 - 52
  let significand := roundHalfEven scaled (d * twoTo shift)
  if significand = twoTo 53 then ofParts? (twoTo 52) (shift + 1) else ofParts? significand shift

end Magnitude

namespace Double

/-- The double nearest to `± n / d`, infinite beyond the finite range. -/
def ofRatio (negative : Bool) (n d : Nat) : Double :=
  match Magnitude.nearest? n d with
  | some m => .finite negative m
  | none => .infinite negative

/-- The double nearest to a decimal number.  A number of `10 ^ 400` or more is
infinite and one below `10 ^ -400` is zero without further arithmetic. -/
def ofScientific (s : Scientific) : Double :=
  if s.coefficient = 0 then .finite s.negative .zero
  else if 0 ≤ s.exponent then
    if s.exponent > 400 then .infinite s.negative
    else ofRatio s.negative (s.coefficient * tenTo s.exponent.toNat) 1
  else
    let places := s.exponent.natAbs
    if places > 400 + s.coefficient.log2 then .finite s.negative .zero
    else ofRatio s.negative s.coefficient (tenTo places)

/-- Numeric equality: the two zeros are equal, and what is no number equals nothing. -/
def numericEq : Double → Double → Bool
  | .finite s m, .finite t n => m == n && (s == t || m.significand == 0)
  | .infinite s, .infinite t => s == t
  | _, _ => false

/-- The integer that a double denotes, if it is finite and whole. -/
def toInt? : Double → Option Int
  | .finite negative m =>
      if m.units % Magnitude.unitsPerOne = 0 then
        let n : Int := (m.units / Magnitude.unitsPerOne : Nat)
        some (if negative then -n else n)
      else none
  | _ => none

/-- ASCII letters in lower case, to read a name in any case. -/
def lowered (s : List Char) : String :=
  String.ofList (s.map Char.toLower)

/-- Digits around an optional point, at least one in all, and an optional exponent. -/
def readDigits? (negative : Bool) (s : List Char) : Option Scientific := do
  let (base, exponent) := Scientific.splitExponent s
  let (whole, rest) := Scientific.spanDigits base
  let fraction ← match rest with
    | [] => some []
    | '.' :: digits => if digits.all Char.isDigit then some digits else none
    | _ => none
  if whole.isEmpty && fraction.isEmpty then none
  else
    let power ← match exponent with
      | none => some 0
      | some text => Scientific.exponent? text
    return Scientific.ofParts negative whole fraction power

/-- Read a double: a sign, then `inf`, `infinity` or `nan` in any case, or a
decimal number, which is rounded to the nearest double. -/
def read? (s : List Char) : Option Double :=
  let (negative, body) := Scientific.splitSign s
  let name := lowered body
  if name == "inf" || name == "infinity" then some (.infinite negative)
  else if name == "nan" then some .nan
  else (readDigits? negative body).map ofScientific

end Double

end DocMatch
