import DocMatch.Number.Power
import DocMatch.Regex.Basic
/-!
Searching a text for a regular expression.  The places of the text are the
numbers up to its length, a set of places is a number whose binary digits are
its members, and an expression takes the set of places where it starts to the
set of places where it can end.
-/

namespace DocMatch.Regex

/-- The character before a place. -/
def before? (text : Array Char) (i : Nat) : Option Char :=
  if i = 0 then none else text[i - 1]?

/-- Whether a place is next to a word character, on the side of `c`. -/
def isWordAt (unicode : Bool) (c : Option Char) : Bool :=
  c.any fun c => (if unicode then CharSet.wordChars else CharSet.asciiWordChars).contains c.toNat

/-- Whether a condition holds at a place of the text. -/
def Look.holds (text : Array Char) (i : Nat) : Look → Bool
  | .textStart => i == 0
  | .textEnd => i == text.size
  | .lineStart crlf =>
      match before? text i with
      | none => true
      | some c => c == '\n' || (crlf && c == '\r' && text[i]? != some '\n')
  | .lineEnd crlf =>
      match text[i]? with
      | none => true
      | some c =>
          if crlf then c == '\r' || (c == '\n' && before? text i != some '\r') else c == '\n'
  | .wordBoundary unicode negated =>
      (isWordAt unicode (before? text i) != isWordAt unicode text[i]?) != negated
  | .wordStart unicode => !isWordAt unicode (before? text i) && isWordAt unicode text[i]?
  | .wordEnd unicode => isWordAt unicode (before? text i) && !isWordAt unicode text[i]?
  | .wordStartHalf unicode => !isWordAt unicode (before? text i)
  | .wordEndHalf unicode => !isWordAt unicode text[i]?

/-- An atom laid over a text. -/
inductive Placed where
  /-- The places from which one character may be taken. -/
  | step (places : Nat)
  /-- The places at which a condition holds. -/
  | test (places : Nat)
deriving DecidableEq, Repr

/-- The set of the places below `size` with a property. -/
def placesWhere (p : Nat → Bool) : Nat → Nat
  | 0 => 0
  | size + 1 => placesWhere p size ||| (if p size then 1 <<< size else 0)

/-- The places of the text at which an atom can start. -/
def Atom.place (text : Array Char) : Atom → Placed
  | .char set =>
      .step (placesWhere (fun i => text[i]?.any fun c => set.contains c.toNat) text.size)
  | .look l => .test (placesWhere (fun i => l.holds text i) (text.size + 1))

/-- The places where a placed atom ends that starts in `starts`. -/
def Placed.ends (starts : Nat) : Placed → Nat
  | .step places => (starts &&& places) <<< 1
  | .test places => starts &&& places

/-- Apply `f` a number of times, or until nothing changes any more. -/
def iterateExactly (f : Nat → Nat) : Nat → Nat → Nat
  | 0, starts => starts
  | count + 1, starts =>
      let next := f starts
      if next = starts then starts else iterateExactly f count next

/-- Apply `f` up to a number of times, keeping the places met on the way. -/
def iterateUpTo (f : Nat → Nat) : Nat → Nat → Nat
  | 0, starts => starts
  | count + 1, starts =>
      let next := starts ||| f starts
      if next = starts then starts else iterateUpTo f count next

/-- The places where an expression ends that starts in `starts`.  Without an
upper limit as many repetitions are tried as there are places, each of which
adds a place or is the last. -/
def Expr.ends (places : Nat) : Expr Placed → Nat → Nat
  | .empty, starts => starts
  | .atom a, starts => a.ends starts
  | .seq a b, starts => b.ends places (a.ends places starts)
  | .alt a b, starts => a.ends places starts ||| b.ends places starts
  | .iterate a least most, starts =>
      let extra := match most with
        | some most => most - least
        | none => places
      iterateUpTo (a.ends places) extra (iterateExactly (a.ends places) least starts)

/-- Whether a part of the text matches. -/
def isMatch (r : Regex) (s : String) : Bool :=
  let text := s.toList.toArray
  let places := text.size + 1
  (r.expr.map (Atom.place text)).ends places (twoTo places - 1) != 0

end DocMatch.Regex
