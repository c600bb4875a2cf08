import DocMatch.Number.Power
import DocMatch.Path.Error
import DocMatch.Path.Lookup
/-!
Changing a value at a path.  Writing makes the containers it misses: a null on
the way becomes a mapping or a sequence, as the segment that leads into it asks,
and a sequence is filled up with nulls.  A write that fails keeps what it has
made so far, so an outcome holds the tree in any case.
-/

namespace DocMatch

/-- The tree after an operation, and what the operation returned. -/
structure Outcome (α : Type) where
  tree : Value
  result : Except PathError α

namespace Value

/-- How far beyond the end of a sequence an item may be written. -/
def maxIndexGap : Nat := twoTo 16

/-- A null becomes the container that a segment leads into. -/
def opened (v : Value) (segment : Segment) : Value :=
  match v, segment with
  | .null, .key _ => .mapping []
  | .null, .index _ => .sequence []
  | .null, .append => .sequence []
  | v, _ => v

/-- Write at the rest of a path below `walked`. -/
def write (walked : Path) (new : Value) (current : Value) : Path → Outcome Unit
  | [] => ⟨new, .ok ()⟩
  | segment :: rest =>
      let walked' := walked ++ [segment]
      match current.opened segment, segment with
      | .mapping entries, .key k =>
          let child := write walked' new ((Fields.get? k entries).getD .null) rest
          ⟨.mapping (Fields.insert k child.tree entries), child.result⟩
      | .sequence items, .index n =>
          if n < items.length then
            let child := write walked' new (items[n]?.getD .null) rest
            ⟨.sequence (items.set n child.tree), child.result⟩
          else if n - items.length > maxIndexGap then
            ⟨.sequence items, .error (.outOfRange walked n items.length)⟩
          else
            let child := write walked' new .null rest
            let padding := List.replicate (n - items.length) Value.null
            ⟨.sequence (items ++ padding ++ [child.tree]), child.result⟩
      | .sequence items, .append =>
          let child := write walked' new .null rest
          ⟨.sequence (items ++ [child.tree]), child.result⟩
      | .element e, _ => ⟨.element e, .error (.readOnly walked .element)⟩
      | other, _ => ⟨other, .error (.notAContainer walked other.kind)⟩

/-- Write a value at a path. -/
def set (root : Value) (p : Path) (new : Value) : Outcome Unit :=
  if p.isEmpty then ⟨root, .error .rootPath⟩ else write [] new root p

/-- Overwrite the value at a path that leads through mappings and sequences only. -/
def replace? (root : Value) (p : Path) (new : Value) : Option Value :=
  match p with
  | [] => some new
  | segment :: rest =>
      match root, segment with
      | .mapping entries, .key k => do
          let child ← (← Fields.get? k entries).replace? rest new
          return .mapping (Fields.insert k child entries)
      | .sequence items, .index n => do
          let child ← (← items[n]?).replace? rest new
          return .sequence (items.set n child)
      | _, _ => none

/-- The kind of the first read-only value that a path goes on below, if there is one. -/
def crossedReadOnly (v : Value) : Path → Option Kind
  | [] => none
  | segment :: rest =>
      match v, segment with
      | .element _, _ => some .element
      | .mapping entries, .key k =>
          (Fields.get? k entries).bind fun child => child.crossedReadOnly rest
      | .sequence items, .index n => items[n]?.bind fun child => child.crossedReadOnly rest
      | _, _ => none

/-- Take the part that the path `whole` ends in out of its container. -/
def removePart (whole : Path) (parent : Value) (last : Segment) : Outcome (Option Value) :=
  match parent, last with
  | .mapping entries, .key k => ⟨.mapping (Fields.erase k entries), .ok (Fields.get? k entries)⟩
  | .sequence items, .index n =>
      if n < items.length then ⟨.sequence (items.eraseIdx n), .ok items[n]?⟩
      else ⟨.sequence items, .ok none⟩
  | .element e, _ => ⟨.element e, .error (.readOnly whole .element)⟩
  | other, _ => ⟨other, .ok none⟩

/-- Remove the part `last` of the container at `place`.  The way there is walked once to see
whether it goes on below an element, and once for the container. -/
def removeAt (whole : Path) (root : Value) (place : Path) (last : Segment) :
    Outcome (Option Value) :=
  match root.crossedReadOnly place with
  | some kind => ⟨root, .error (.readOnly whole kind)⟩
  | none =>
      match root.locate? place with
      | none => ⟨root, .ok none⟩
      | some parent =>
          let outcome := removePart whole parent last
          ⟨(root.replace? place outcome.tree).getD root, outcome.result⟩

/-- Remove the value at a path and return it; a path that leads nowhere is fine. -/
def remove (root : Value) (p : Path) : Outcome (Option Value) :=
  match p.getLast? with
  | none => ⟨root, .error .rootPath⟩
  | some last => removeAt p root p.dropLast last

end Value

end DocMatch
