import DocMatch.Regex.Escape
/-!
Reading the sets of characters that a regular expression writes in brackets.
-/

namespace DocMatch.Regex

/-- A set read from brackets, with the depth of the brackets in it. -/
structure NestedSet where
  set : CharSet
  depth : Nat

/-- The operations between sets in brackets. -/
inductive SetOp where
  | inter
  | diff
  | symmDiff

/-- The union of the items read so far, which are in reverse. -/
def unionOf (items : List NestedSet) : NestedSet :=
  match items with
  | [item] => item
  | _ =>
      let depth := items.foldl (fun d item => max d item.depth) 0
      ⟨.unions (items.reverse.map NestedSet.set), if items.isEmpty then 0 else depth + 1⟩

/-- Apply the operation that waits for its right operand. -/
def applyOp (flags : Flags) (waiting : Option (NestedSet × SetOp)) (right : NestedSet) :
    NestedSet :=
  match waiting with
  | none => right
  | some (left, op) =>
      let a := foldedIf flags left.set
      let b := foldedIf flags right.set
      let set := match op with
        | .inter => CharSet.inter a b
        | .diff => CharSet.diff a b
        | .symmDiff => CharSet.symmDiff a b
      ⟨set, max left.depth right.depth + 1⟩

/-- Read the name of an ASCII class after an opening bracket and a colon. -/
def readAsciiClass (s : List Char) : Option (CharSet × Bool × List Char) := do
  let (negated, s) := match s with
    | '^' :: rest => (true, rest)
    | _ => (false, s)
  let (name, rest) ← splitAt? [':'] s
  match rest with
  | ']' :: rest => return (← CharSet.asciiClass? (String.ofList name), negated, rest)
  | _ => none

/-- Read one character or escape inside brackets. -/
def readClassPrimitive (flags : Flags) : List Char → Option (Primitive × List Char)
  | [] => none
  | '\\' :: rest => readEscape flags rest
  | c :: rest => some (.literal c, rest)

/-- A literal inside brackets; beyond ASCII it needs Unicode. -/
def classLiteral? (flags : Flags) : Primitive → Option Char
  | .literal c => if flags.unicode || c.toNat < 0x80 then some c else none
  | _ => none

/-- Read a single item or a range inside brackets. -/
def readClassRange (flags : Flags) (s : List Char) : Option (CharSet × List Char) := do
  let (first, s) ← readClassPrimitive flags s
  match skip flags s with
  | [] => none
  | c :: rest =>
      let next := peekAfterBlanks flags rest
      if c != '-' || next == some ']' || next == some '-' then
        match first with
        | .set set => some (set, c :: rest)
        | .literal _ => return (.single (← classLiteral? flags first), c :: rest)
        | .look _ => none
      else
        let (last, s) ← readClassPrimitive flags (skip flags rest)
        let low ← classLiteral? flags first
        let high ← classLiteral? flags last
        if low ≤ high then return (.range low.toNat high.toNat, s) else none

/-- The hyphens, or else the closing bracket, with which brackets may start. -/
def readClassStart (flags : Flags) : Nat → List Char → List NestedSet × List Char
  | 0, s => ([], s)
  | steps + 1, s =>
      match s with
      | '-' :: rest =>
          let (items, rest) := readClassStart flags steps (skip flags rest)
          (items ++ [⟨.single '-', 0⟩], rest)
      | _ => ([], s)

/-- Read the inside of brackets: a sign of complement, then items. -/
def openClass (flags : Flags) (s : List Char) : Bool × List NestedSet × List Char :=
  let (negated, s) := match skip flags s with
    | '^' :: rest => (true, skip flags rest)
    | s => (false, s)
  match readClassStart flags s.length s with
  | ([], ']' :: rest) => (negated, [⟨.single ']', 0⟩], skip flags rest)
  | (items, rest) => (negated, items, rest)

/-- The set of finished brackets.  A complement needs Unicode. -/
def closeClass (flags : Flags) (negated : Bool) (inside : NestedSet) : Option NestedSet :=
  if negated && !flags.unicode then none
  else some ⟨.negatedIf negated (foldedIf flags inside.set), inside.depth + 1⟩

/-- Read brackets up to the closing one.  The items of the current operand are in
reverse, and `waiting` is the operation before it. -/
def readClass (flags : Flags) (negated : Bool) :
    Nat → List NestedSet → Option (NestedSet × SetOp) → List Char →
      Option (NestedSet × List Char)
  | 0, _, _, _ => none
  | steps + 1, items, waiting, s =>
      let operand := applyOp flags waiting (unionOf items)
      match skip flags s with
      | [] => none
      | ']' :: rest => (closeClass flags negated operand).map (·, rest)
      | '&' :: '&' :: rest => readClass flags negated steps [] (some (operand, .inter)) rest
      | '-' :: '-' :: rest => readClass flags negated steps [] (some (operand, .diff)) rest
      | '~' :: '~' :: rest => readClass flags negated steps [] (some (operand, .symmDiff)) rest
      | '[' :: rest =>
          let ascii := match rest with
            | ':' :: rest => readAsciiClass rest
            | _ => none
          match ascii with
          | some (set, negatedClass, rest) =>
              if negatedClass && !flags.unicode then none
              else
                let set := CharSet.negatedIf negatedClass (foldedIf flags set)
                readClass flags negated steps (⟨set, 0⟩ :: items) waiting rest
          | none => do
              let (negatedInner, start, rest) := openClass flags rest
              let (inner, rest) ← readClass flags negatedInner steps start none rest
              readClass flags negated steps (inner :: items) waiting rest
      | s => do
          let (set, rest) ← readClassRange flags s
          readClass flags negated steps (⟨set, 0⟩ :: items) waiting rest

end DocMatch.Regex
