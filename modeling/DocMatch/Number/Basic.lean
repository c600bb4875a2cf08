import DocMatch.Number.Arithmetic
import DocMatch.Number.Layout
/-!
Numbers: exact decimals where the magnitude allows it, doubles elsewhere.  Two
decimals are compared exactly, any other pair as doubles, so `1`, `1.0` and
`1.00` are one number.
-/

namespace DocMatch

/-- A numeric leaf of a document. -/
inductive Number where
  | decimal (d : Decimal)
  | double (x : Double)
deriving DecidableEq

namespace Number

/-- The number as a double. -/
def toDouble : Number → Double
  | .decimal d => d.toDouble
  | .double x => x

/-- The least integer of 64 bits. -/
def minInt64 : Int := -(twoTo 63 : Nat)

/-- The greatest integer of 64 bits. -/
def maxInt64 : Int := (twoTo 63 : Nat) - 1

/-- The number as a 64-bit integer.  A decimal has to denote one; a whole double
beyond the range is taken to the nearest end of it. -/
def toInt64? : Number → Option Int
  | .decimal d => d.toInt?.filter fun i => minInt64 ≤ i && i ≤ maxInt64
  | .double x => x.toInt?.map fun i => max minInt64 (min i maxInt64)

/-- Equality of value, whatever the representation. -/
def numericEq : Number → Number → Bool
  | .decimal a, .decimal b => a == b
  | a, b => a.toDouble.numericEq b.toDouble

/-- Read a number text: a decimal if it can hold it, otherwise a double. -/
def read? (s : List Char) : Option Number :=
  let body := Text.trim s
  match Decimal.read? body with
  | some d => some (.decimal d)
  | none => (Double.read? body).map .double

/-- The number of an integer. -/
def ofInt (i : Int) : Number :=
  match Decimal.ofInt? i with
  | some d => .decimal d
  | none => .double (.ofScientific ⟨i < 0, i.natAbs, 0⟩)

/-- The number of a double, by way of its shortest text, so that `0.1` is the
decimal `0.1`.  What no decimal can hold stays a double. -/
def ofDouble (x : Double) : Number :=
  match read? (Layout.plain.text x).toList with
  | some (.decimal d) => .decimal d
  | _ => .double x

/-- The number in a report: positional notation, no superfluous places. -/
def text : Number → String
  | .decimal d => d.text
  | .double x => Layout.plain.text x

end Number

end DocMatch
