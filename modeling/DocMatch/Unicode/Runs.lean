import DocMatch.Text.Hex
/-!
Sets of code points as runs: an interval, taken whole or every other code point
of it.  The tables of this folder write runs as texts of hexadecimal numbers.
-/

namespace DocMatch.Unicode

/-- The code points `first`, `first + step`, … up to `last`. -/
structure Run where
  first : Nat
  last : Nat
  step : Nat
deriving DecidableEq, Repr

/-- Whether a code point lies in the run. -/
def Run.contains (r : Run) (n : Nat) : Bool :=
  r.first ≤ n && n ≤ r.last && (n - r.first) % r.step == 0

/-- Whether a code point lies in one of the runs. -/
def inRuns (runs : List Run) (n : Nat) : Bool :=
  runs.any fun r => r.contains n

/-- The number that a text writes in hexadecimal digits. -/
def hexNumber (digits : List Char) : Nat :=
  Text.digitsValue 16 digits

/-- Read one run: `first`, `first-last` or `first-last/step`. -/
def Run.ofText (s : List Char) : Run :=
  match s.span Text.isHexDigit with
  | (first, '-' :: rest) =>
      let (last, step) := rest.span Text.isHexDigit
      ⟨hexNumber first, hexNumber last, if step.isEmpty then 1 else hexNumber (step.drop 1)⟩
  | (first, _) => ⟨hexNumber first, hexNumber first, 1⟩

/-- The words of a text, which spaces and line ends separate. -/
def words (s : List Char) : List (List Char) :=
  (s.splitBy fun a b => !a.isWhitespace && !b.isWhitespace).filter fun word =>
    !word.any Char.isWhitespace

/-- Read the runs that the words of a text write. -/
def runsOfText (text : String) : List Run :=
  (words text.toList).map Run.ofText

/-- A set of code points with the names under which it is looked up. -/
structure Named where
  names : List String
  runs : String

/-- The runs of the set with a name, if there is one. -/
def lookUp? (name : String) (table : List Named) : Option (List Run) :=
  (table.find? fun entry => entry.names.contains name).map fun entry => runsOfText entry.runs

/-- The runs of the set with a name; no code points if there is none. -/
def lookUp (name : String) (table : List Named) : List Run :=
  (lookUp? name table).getD []

end DocMatch.Unicode
