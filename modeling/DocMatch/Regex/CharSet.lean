import DocMatch.Unicode.Category
import DocMatch.Unicode.Fold
import DocMatch.Unicode.Property
import DocMatch.Unicode.Script
/-!
Sets of characters, as the operations that build them; membership is computed
from the operations.
-/

namespace DocMatch.Regex

open Unicode (CodeRange Run)

/-- A set of code points. -/
inductive CharSet where
  | runs (rs : List Run)
  | union (a b : CharSet)
  | inter (a b : CharSet)
  | diff (a b : CharSet)
  | symmDiff (a b : CharSet)
  | compl (a : CharSet)
  /-- The set and all case variants of its members. -/
  | folded (a : CharSet)
  /-- The set and the case variants of the ASCII letters in it. -/
  | asciiFolded (a : CharSet)
deriving Repr

namespace CharSet

/-- An ASCII letter in the other case; any other code point unchanged. -/
def swapAsciiCase (n : Nat) : Nat :=
  if 0x41 ≤ n && n ≤ 0x5A then n + 0x20
  else if 0x61 ≤ n && n ≤ 0x7A then n - 0x20
  else n

/-- Whether a code point belongs to the set. -/
def contains : CharSet → Nat → Bool
  | .runs rs, n => Unicode.inRuns rs n
  | .union a b, n => a.contains n || b.contains n
  | .inter a b, n => a.contains n && b.contains n
  | .diff a b, n => a.contains n && !b.contains n
  | .symmDiff a b, n => a.contains n != b.contains n
  | .compl a, n => !a.contains n
  | .folded a, n => (Unicode.variants n).any fun m => a.contains m
  | .asciiFolded a, n => a.contains n || a.contains (swapAsciiCase n)

/-- The empty set. -/
def empty : CharSet := .runs []

/-- The set of all characters. -/
def all : CharSet := .compl empty

/-- The code points from `first` to `last`. -/
def range (first last : Nat) : CharSet :=
  .runs [⟨first, last, 1⟩]

/-- The set of one character. -/
def single (c : Char) : CharSet :=
  range c.toNat c.toNat

/-- The union of several sets. -/
def unions : List CharSet → CharSet
  | [] => empty
  | [a] => a
  | a :: rest => .union a (unions rest)

/-- The complement of a set, if asked for. -/
def negatedIf (negated : Bool) (a : CharSet) : CharSet :=
  if negated then .compl a else a

/-- The code points that are no characters: the halves of pairs of UTF-16. -/
def surrogates : List CodeRange := [⟨0xD800, 0xDFFF⟩]

/-- The complement of a list of intervals. -/
def outside (is : List CodeRange) : List CodeRange :=
  Unicode.gapsFrom 0 is

/-- The intersection of two lists of intervals. -/
def common (is js : List CodeRange) : List CodeRange :=
  outside (Unicode.unionOfRanges (outside is ++ outside js))

/-- The intervals of the set. -/
def ranges : CharSet → List CodeRange
  | .runs rs => Unicode.rangesOfRuns rs
  | .union a b => Unicode.unionOfRanges (a.ranges ++ b.ranges)
  | .inter a b => common a.ranges b.ranges
  | .diff a b => common a.ranges (outside b.ranges)
  | .symmDiff a b =>
      let is := a.ranges
      let js := b.ranges
      Unicode.unionOfRanges (common is (outside js) ++ common js (outside is))
  | .compl a => outside a.ranges
  | .folded a => Unicode.withVariants a.ranges
  | .asciiFolded a =>
      let is := a.ranges
      let swapped := is.flatMap fun i =>
        ((Unicode.Run.within ⟨0x41, 0x5A, 1⟩ i).map fun r => r.move 0x20).toList ++
          ((Unicode.Run.within ⟨0x61, 0x7A, 1⟩ i).map fun r => r.move (-0x20)).toList
      Unicode.unionOfRanges (is ++ swapped.flatMap Unicode.Run.ranges)

/-- The intervals of the characters in the set. -/
def charRanges (a : CharSet) : List CodeRange :=
  common a.ranges (outside surrogates)

/-- The decimal digits. -/
def digits : CharSet := .runs Unicode.decimalNumbers

/-- The blank characters. -/
def blanks : CharSet := .runs Unicode.whiteSpace

/-- The characters of words: letters, marks, digits, connectors and joiners. -/
def wordChars : CharSet :=
  .runs (Unicode.alphabetic ++ Unicode.marks ++ Unicode.decimalNumbers ++ Unicode.connectors ++
    Unicode.joinControls)

/-- The decimal digits of ASCII. -/
def asciiDigits : CharSet := range 0x30 0x39

/-- The blank characters of ASCII. -/
def asciiBlanks : CharSet := .runs [⟨0x09, 0x0D, 1⟩, ⟨0x20, 0x20, 1⟩]

/-- The characters of words in ASCII. -/
def asciiWordChars : CharSet :=
  .runs [⟨0x30, 0x39, 1⟩, ⟨0x41, 0x5A, 1⟩, ⟨0x5F, 0x5F, 1⟩, ⟨0x61, 0x7A, 1⟩]

/-- The ASCII classes that bracket expressions name. -/
def asciiClass? (name : String) : Option CharSet :=
  match name with
  | "alnum" => some (.runs [⟨0x30, 0x39, 1⟩, ⟨0x41, 0x5A, 1⟩, ⟨0x61, 0x7A, 1⟩])
  | "alpha" => some (.runs [⟨0x41, 0x5A, 1⟩, ⟨0x61, 0x7A, 1⟩])
  | "ascii" => some (range 0x00 0x7F)
  | "blank" => some (.runs [⟨0x09, 0x09, 1⟩, ⟨0x20, 0x20, 1⟩])
  | "cntrl" => some (.runs [⟨0x00, 0x1F, 1⟩, ⟨0x7F, 0x7F, 1⟩])
  | "digit" => some asciiDigits
  | "graph" => some (range 0x21 0x7E)
  | "lower" => some (range 0x61 0x7A)
  | "print" => some (range 0x20 0x7E)
  | "punct" =>
      some (.runs [⟨0x21, 0x2F, 1⟩, ⟨0x3A, 0x40, 1⟩, ⟨0x5B, 0x60, 1⟩, ⟨0x7B, 0x7E, 1⟩])
  | "space" => some asciiBlanks
  | "upper" => some (range 0x41 0x5A)
  | "word" => some asciiWordChars
  | "xdigit" => some (.runs [⟨0x30, 0x39, 1⟩, ⟨0x41, 0x46, 1⟩, ⟨0x61, 0x66, 1⟩])
  | _ => none

end CharSet

end DocMatch.Regex
