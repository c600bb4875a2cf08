import DocMatch.Number.Power
import DocMatch.Text.Blank
import DocMatch.Text.Hex
/-!
The flags of a regular expression, and what they let a pattern hold between its
parts.
-/

namespace DocMatch.Regex

/-- The flags in force at a place of a pattern. -/
structure Flags where
  ignoreCase : Bool
  multiLine : Bool
  dotAll : Bool
  unicode : Bool
  crlf : Bool
  extended : Bool
  /-- Repetitions prefer fewer rounds, unless marked. -/
  lazy : Bool
deriving DecidableEq, Repr

namespace Flags

/-- The flags at the start of a pattern. -/
def initial : Flags := ⟨false, false, false, true, false, false, false⟩

/-- Set or clear the flag of a letter; none if there is no such flag. -/
def set? (flags : Flags) (letter : Char) (on : Bool) : Option Flags :=
  match letter with
  | 'i' => some { flags with ignoreCase := on }
  | 'm' => some { flags with multiLine := on }
  | 's' => some { flags with dotAll := on }
  | 'u' => some { flags with unicode := on }
  | 'R' => some { flags with crlf := on }
  | 'x' => some { flags with extended := on }
  | 'U' => some { flags with lazy := on }
  | _ => none

end Flags

/-! ### Blanks and numbers -/

/-- Skip blanks and comments, which run to the end of their line. -/
def skipExtended (inComment : Bool) : List Char → List Char
  | [] => []
  | c :: rest =>
      if inComment then skipExtended (c != '\n') rest
      else if Text.isBlank c then skipExtended false rest
      else if c = '#' then skipExtended true rest
      else c :: rest

/-- Skip what the flags let a pattern hold between its parts. -/
def skip (flags : Flags) (s : List Char) : List Char :=
  if flags.extended then skipExtended false s else s

/-- The character after blanks and at most one comment sign. -/
def peekAfterBlanks (flags : Flags) (s : List Char) : Option Char :=
  if flags.extended then
    match s.dropWhile Text.isBlank with
    | '#' :: rest => (rest.dropWhile Text.isBlank).head?
    | rest => rest.head?
  else s.head?

/-- The digits of a count, between which the flags may allow blanks. -/
def readCountDigits (flags : Flags) : Nat → List Char → List Char × List Char
  | 0, s => ([], s)
  | steps + 1, s =>
      match s with
      | c :: rest =>
          if c.isDigit then
            let (digits, rest) := readCountDigits flags steps (skip flags rest)
            (c :: digits, rest)
          else ([], s)
      | [] => ([], [])

/-- A count below `2 ^ 32`, with blanks around it. -/
def readCount (flags : Flags) (s : List Char) : Option (Nat × List Char) :=
  let (digits, rest) := readCountDigits flags s.length (s.dropWhile Text.isBlank)
  let n := Text.digitsValue 10 digits
  if digits.isEmpty || twoTo 32 ≤ n then none
  else some (n, skip flags (rest.dropWhile Text.isBlank))

end DocMatch.Regex
