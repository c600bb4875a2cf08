import DocMatch.Number.Power
/-!
How large an automaton has become while it is built, state after state.
-/

namespace DocMatch.Regex

/-- The number of states of an automaton, and the bytes of the lists that its
states hold.  States are numbered from zero, so the first number is also the number
of the next state. -/
structure Extent where
  states : Nat
  bytes : Nat
deriving DecidableEq, Repr

namespace Extent

/-- The extent of no states. -/
def zero : Extent := ⟨0, 0⟩

/-- Add states and the bytes of their lists. -/
def add (e : Extent) (states bytes : Nat) : Extent :=
  ⟨e.states + states, e.bytes + bytes⟩

/-- The bytes of a state without its list. -/
def stateBytes : Nat := 32

/-- The bytes of a transition in a list: two bytes and the number of a state. -/
def transitionBytes : Nat := 8

/-- The bytes of the number of a state in a list of alternatives. -/
def alternativeBytes : Nat := 4

/-- The bytes of the whole automaton. -/
def size (e : Extent) : Nat :=
  stateBytes * e.states + e.bytes

/-- The greatest size of an automaton. -/
def limit : Nat := 10 * twoTo 20

/-- Adding never makes an automaton smaller. -/
theorem size_le_size_add (e : Extent) (states bytes : Nat) : e.size ≤ (e.add states bytes).size := by
  simp only [size, add, stateBytes]
  omega

/-- Add the same part a number of times.  The limit, once exceeded, stays exceeded,
so nothing more is added then. -/
def repeatedly (part : Extent → Extent) : Nat → Extent → Extent
  | 0, e => e
  | count + 1, e => if limit < e.size then e else repeatedly part count (part e)

end Extent

end DocMatch.Regex
