import DocMatch.Number.Basic
/-!
JSON numbers, and how their text is read.  Digits are taken up as long as 64 bits hold the number,
and an exponent stands for the rest; what comes of them is converted and scaled by powers of ten,
each step rounded.  So a double is next to the number that the text writes, but it is not always
the nearest one.
-/

namespace DocMatch

/-- A JSON number: an integer that fits 64 bits, signed or unsigned, or a double. -/
inductive JsonNumber where
  | integer (i : Int)
  | double (x : Double)
deriving DecidableEq

namespace JsonNumber

/-- The least integer kept as such. -/
def minInteger : Int := -(twoTo 63 : Nat)

/-- The greatest integer kept as such. -/
def maxInteger : Int := (twoTo 64 : Nat) - 1

/-- The text of a JSON number. -/
def text : JsonNumber → String
  | .integer i => toString i
  | .double x => Layout.json.text x

/-- Go on from `n` with digits as long as 64 bits hold the number.  Returned are the number and
the digits left. -/
def takeDigits (n : Nat) : List Char → Nat × List Char
  | [] => (n, [])
  | c :: rest =>
      let next := n * 10 + Scientific.digitValue c
      if next < twoTo 64 then takeDigits next rest else (n, c :: rest)

/-- The number that is scanned in digits around a point.  Each digit left before the point raises
the exponent, each one taken after it lowers it, and those left after it are dropped. -/
def scan (negative : Bool) (whole fraction : List Char) (exponent : Int) : Scientific :=
  let (units, left) := takeDigits 0 whole
  let (significand, dropped) := takeDigits units fraction
  ⟨negative, significand, exponent + left.length + dropped.length - fraction.length⟩

/-- The greatest exponent of the powers of ten that are multiplied or divided by at once. -/
def maxPower : Nat := 308

/-- A power of ten, rounded. -/
def power? (exponent : Nat) : Option Magnitude :=
  Magnitude.ofNat? (tenTo exponent)

/-- Divide by the greatest power a number of times, or until nothing is left. -/
def divideSteps : Nat → Magnitude → Option Magnitude
  | 0, m => some m
  | steps + 1, m =>
      if m.significand = 0 then some m
      else do divideSteps steps (← m.div? (← power? maxPower))

/-- A magnitude times `10 ^ exponent`, if that is in range. -/
def scaled? (m : Magnitude) (exponent : Int) : Option Magnitude :=
  if exponent < 0 then do
    let places := exponent.natAbs
    let steps := (places - 1) / maxPower
    (← divideSteps steps m).div? (← power? (places - maxPower * steps))
  else if exponent ≤ maxPower then do m.mul? (← power? exponent.toNat)
  else if m.significand = 0 then some m
  else none

/-- The double that a scanned number is read as. -/
def ofScientific? (s : Scientific) : Option JsonNumber := do
  let m ← scaled? (← Magnitude.ofNat? s.coefficient) s.exponent
  return .double (.finite s.negative m)

/-- An integer of 64 bits stays one.  Minus zero, wider integers and all texts with a point or an
exponent are doubles, which have to be finite. -/
def ofParts? (negative : Bool) (whole : List Char) (fraction : Option (List Char))
    (exponent : Option Int) : Option JsonNumber :=
  let (n, left) := takeDigits 0 whole
  let double := ofScientific? (scan negative whole (fraction.getD []) (exponent.getD 0))
  if left.isEmpty && fraction.isNone && exponent.isNone then
    if !negative then some (.integer n)
    else if n ≠ 0 ∧ n ≤ twoTo 63 then some (.integer (-(n : Int)))
    else double
  else double

/-- The digits before the point: a single zero, or a run that does not start with one. -/
def readWhole : List Char → Option (List Char × List Char)
  | '0' :: rest => some (['0'], rest)
  | s =>
      let (digits, rest) := Scientific.spanDigits s
      if digits.isEmpty then none else some (digits, rest)

/-- The digits after a point, if there is one. -/
def readFraction : List Char → Option (Option (List Char) × List Char)
  | '.' :: s =>
      let (digits, rest) := Scientific.spanDigits s
      if digits.isEmpty then none else some (some digits, rest)
  | s => some (none, s)

/-- The exponent after its mark, if there is one. -/
def readExponent : List Char → Option (Option Int × List Char)
  | [] => some (none, [])
  | c :: s =>
      if Scientific.isExponentMark c then
        let (negative, s) := Scientific.splitSign s
        let (digits, rest) := Scientific.spanDigits s
        if digits.isEmpty then none
        else
          let n : Int := Scientific.digitsValue digits
          some (some (if negative then -n else n), rest)
      else some (none, c :: s)

/-- Read a number after its sign. -/
def readUnsigned (negative : Bool) (s : List Char) : Option (JsonNumber × List Char) := do
  let (whole, s) ← readWhole s
  let (fraction, s) ← readFraction s
  let (exponent, s) ← readExponent s
  return (← ofParts? negative whole fraction exponent, s)

/-- Read a number and return what follows. -/
def readNumber : List Char → Option (JsonNumber × List Char)
  | '-' :: rest => readUnsigned true rest
  | s => readUnsigned false s

/-- Read a text that is a number as a whole. -/
def ofText? (s : List Char) : Option JsonNumber :=
  match readNumber s with
  | some (n, []) => some n
  | _ => none

end JsonNumber

end DocMatch
