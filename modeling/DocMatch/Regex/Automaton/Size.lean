import DocMatch.Regex.Automaton.Chars
import DocMatch.Regex.Automaton.Words
import DocMatch.Regex.Form
/-!
The size of the automata of an expression: one that reads a text forward and one
that reads it backward.  Repetitions are written out, so a short expression can
have automata that are too large.
-/

namespace DocMatch.Regex.Form

/-- The bytes of a text that is one of several branches. -/
def word? : Form → Option (List Nat)
  | .literal text => some (Text.Utf8.encodeText text)
  | _ => none

/-- The words of a choice between two texts or more. -/
def words? (branches : List Form) : Option (List (List Nat)) :=
  if branches.length ≤ 1 then none else branches.mapM word?

mutual

/-- Add the automaton of an expression.  Only the forward one remembers groups. -/
def extend (backward : Bool) : Form → Extent → Extent
  | .empty, e | .look _, e => e.add 1 0
  | .literal text, e => e.add (Text.Utf8.encodeText text).length 0
  | .chars ranges, e => charsExtent backward ranges e
  | .group _ body, e =>
      if backward then body.extend backward e
      else (body.extend backward (e.add 1 0)).add 1 0
  | .seq parts, e => if backward then extendBack parts e else extendForth parts e
  | .alt branches, e =>
      match words? branches with
      | some words => wordsExtent (if backward then words.map List.reverse else words) e
      | none => extendBranches backward 0 branches e
  | .iterate body least most _, e =>
      let once := body.extend backward
      let branch := fun (e : Extent) => once (e.add 1 (2 * Extent.alternativeBytes))
      match least, most with
      | 0, none =>
          if body.leastLength?.any (0 < ·) then branch e
          else (once e).add 3 (4 * Extent.alternativeBytes)
      | least, none =>
          (Extent.repeatedly once least e).add 1 (2 * Extent.alternativeBytes)
      | 0, some 1 => (branch e).add 1 0
      | 0, some most => Extent.repeatedly branch most (e.add 2 0)
      | least, some most =>
          let e := Extent.repeatedly once least e
          if least = most then e else Extent.repeatedly branch (most - least) (e.add 1 0)

/-- Add the automata of the parts of a sequence that is read forward. -/
def extendForth : List Form → Extent → Extent
  | [], e => e
  | a :: rest, e => extendForth rest (a.extend false e)

/-- Add the automata of the parts of a sequence that is read backward. -/
def extendBack : List Form → Extent → Extent
  | [], e => e
  | a :: rest, e => a.extend true (extendBack rest e)

/-- Add the automata of branches, of which `before` have been added.  The states in
which they part and in which they meet again come after the second one. -/
def extendBranches (backward : Bool) (before : Nat) : List Form → Extent → Extent
  | [], e => e
  | a :: rest, e =>
      let e := (a.extend backward e).add (if before = 1 then 2 else 0) Extent.alternativeBytes
      extendBranches backward (before + 1) rest e

end

/-- The states with which an automaton starts: those that skip what comes before a
match, unless the match is bound to the place where reading starts. -/
def opening (a : Form) (backward : Bool) : Extent :=
  if a.requires (if backward then .textEnd else .textStart) backward then Extent.zero.add 1 0
  else Extent.zero.add 3 (Extent.transitionBytes + 2 * Extent.alternativeBytes)

/-- The automaton that reads forward.  The whole match is a group. -/
def forwardExtent (a : Form) : Extent :=
  (a.extend false ((a.opening false).add 1 0)).add 2 0

/-- The automaton that reads backward. -/
def backwardExtent (a : Form) : Extent :=
  (a.extend true (a.opening true)).add 1 0

/-- Whether the automata of an expression are small enough. -/
def isSmall (a : Form) : Bool :=
  a.backwardExtent.size ≤ Extent.limit && a.forwardExtent.size ≤ Extent.limit

end DocMatch.Regex.Form
