import DocMatch.Regex.Automaton.Extent
import DocMatch.Text.Utf8
import Std.Data.HashMap
/-!
Automata that read one character of a set, byte after byte of its UTF-8 form.

Equal states are found again in a table with a fixed number of slots.  Where two
states fall into one slot the later one takes it, so that a state forgotten in this
way may be built twice.
-/

namespace DocMatch.Regex

open Unicode (CodeRange)
open Text.Utf8 (ByteRange)

/-- The slot of a list of numbers in a table of the given size. -/
def slotOf (slots : Nat) (key : List Nat) : Nat :=
  let hash := key.foldl (fun (hash : UInt64) n => (hash ^^^ n.toUInt64) * 1099511628211)
    14695981039346656037
  hash.toNat % slots

/-- States by their contents, one in each slot. -/
abbrev StateTable := Std.HashMap Nat (List Nat × Nat)

/-- The states built so far. -/
structure StatePool where
  extent : Extent
  table : StateTable

namespace StatePool

/-- A pool that no state can be taken from. -/
def ofExtent (e : Extent) : StatePool := ⟨e, ∅⟩

/-- The number of the state with the given contents, which is built unless the
table has it.  Its list takes the given number of bytes. -/
def state (pool : StatePool) (slots : Nat) (key : List Nat) (bytes : Nat) : StatePool × Nat :=
  let slot := slotOf slots key
  let found := pool.table[slot]?.bind fun (held, n) => if held = key then some n else none
  match found with
  | some n => (pool, n)
  | none =>
      let n := pool.extent.states
      (⟨pool.extent.add 1 bytes, pool.table.insert slot (key, n)⟩, n)

end StatePool

/-! ### Forward: states by their transitions -/

/-- A state of which more transitions may follow: those it has, and the byte range
of the last one, whose goal is the next such state. -/
structure OpenState where
  transitions : List (ByteRange × Nat)
  last : ByteRange

/-- The slots of the table for forward automata. -/
def forwardSlots : Nat := 10000

/-- Build a state with the given transitions. -/
def StatePool.close (pool : StatePool) (transitions : List (ByteRange × Nat)) :
    StatePool × Nat :=
  pool.state forwardSlots
    (transitions.flatMap fun (range, goal) => [range.first, range.last, goal])
    (Extent.transitionBytes * transitions.length)

/-- Build the states of a path, the last one first; `target` is where the path ends. -/
def closePath (target : Nat) : List OpenState → StatePool → StatePool × Nat
  | [], pool => (pool, target)
  | s :: rest, pool =>
      let (pool, goal) := closePath target rest pool
      pool.close (s.transitions ++ [(s.last, goal)])

/-- Add a sequence of byte ranges to a path of open states.  What the path holds
beyond their common start is built. -/
def addSequence (target : Nat) : List ByteRange → List OpenState → StatePool →
    List OpenState × StatePool
  | range :: ranges, s :: rest, pool =>
      if s.last = range then
        let (rest, pool) := addSequence target ranges rest pool
        (s :: rest, pool)
      else
        let (pool, goal) := closePath target rest pool
        (⟨s.transitions ++ [(s.last, goal)], range⟩ :: ranges.map (⟨[], ·⟩), pool)
  | ranges, [], pool => (ranges.map (⟨[], ·⟩), pool)
  | [], path, pool => (path, pool)

/-- The automaton that reads the bytes of a character forward. -/
def charsForward (sequences : List (List ByteRange)) (e : Extent) : Extent :=
  let target := e.states
  let (path, pool) := sequences.foldl
    (fun (path, pool) sequence => addSequence target sequence path pool)
    ([], StatePool.ofExtent (e.add 1 0))
  (closePath target path pool).1.extent

/-! ### Backward: states by their byte range and what follows -/

/-- The slots of the table for backward automata. -/
def backwardSlots : Nat := 1000

/-- The automaton that reads the bytes of a character backward: a chain of states
for each sequence, built from its first byte, and one state that branches to them. -/
def charsBackward (sequences : List (List ByteRange)) (e : Extent) : Extent :=
  let target := e.states + 1
  let addChain (pool : StatePool) (sequence : List ByteRange) : StatePool :=
    (sequence.foldl
      (fun (pool, goal) range =>
        pool.state backwardSlots [goal, range.first, range.last] 0)
      (pool, target)).1
  let pool := sequences.foldl addChain (StatePool.ofExtent (e.add 2 0))
  pool.extent.add 0 (Extent.alternativeBytes * sequences.length)

/-- Add the automaton that reads one character of a set.  One state is enough for
a set of ASCII characters, and one more in which it ends. -/
def charsExtent (backward : Bool) (ranges : List CodeRange) (e : Extent) : Extent :=
  if ranges.all fun i => i.last < 0x80 then
    e.add 2 (Extent.transitionBytes * ranges.length)
  else
    let sequences := ranges.flatMap Text.Utf8.sequences
    if backward then charsBackward sequences e else charsForward sequences e

end DocMatch.Regex
