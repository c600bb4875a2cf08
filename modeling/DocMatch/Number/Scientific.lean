/-!
Decimal notation with an exponent, as number texts write it.  The number kinds
of this library are read from a text by way of `Scientific`, which holds exactly
what the text says.
-/

namespace DocMatch

/-- The number `± coefficient · 10 ^ exponent`; zero keeps the sign it is written with. -/
structure Scientific where
  negative : Bool
  coefficient : Nat
  exponent : Int
deriving DecidableEq, Repr

namespace Scientific

/-- The value of an ASCII digit. -/
def digitValue (c : Char) : Nat :=
  c.toNat - '0'.toNat

/-- The number that a run of ASCII digits writes in base ten. -/
def digitsValue (digits : List Char) : Nat :=
  digits.foldl (fun n c => n * 10 + digitValue c) 0

/-- Split off the longest run of ASCII digits. -/
def spanDigits (s : List Char) : List Char × List Char :=
  s.span Char.isDigit

/-- The number with these digits before and after the point, times `10 ^ exponent`. -/
def ofParts (negative : Bool) (whole fraction : List Char) (exponent : Int) : Scientific :=
  ⟨negative, digitsValue (whole ++ fraction), exponent - fraction.length⟩

/-- Split off a leading sign; the flag says whether it is a minus. -/
def splitSign : List Char → Bool × List Char
  | '-' :: rest => (true, rest)
  | '+' :: rest => (false, rest)
  | s => (false, s)

/-- An exponent: an optional sign, then digits only. -/
def exponent? (s : List Char) : Option Int :=
  let (negative, digits) := splitSign s
  if digits.isEmpty || !digits.all Char.isDigit then none
  else if negative then some (-(digitsValue digits : Int)) else some (digitsValue digits)

/-- Whether a character opens an exponent. -/
def isExponentMark (c : Char) : Bool :=
  c == 'e' || c == 'E'

/-- The text before the first exponent mark, and the exponent after it if there is a mark. -/
def splitExponent (s : List Char) : List Char × Option (List Char) :=
  match s.span (fun c => !isExponentMark c) with
  | (base, []) => (base, none)
  | (base, _ :: rest) => (base, some rest)

end Scientific

end DocMatch
