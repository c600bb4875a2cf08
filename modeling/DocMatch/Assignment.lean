/-!
Assigning actual items to expected ones.  Each expected item has a list of
candidates, and no actual item is given away twice.  The items are taken in
order; for each, a search looks for a way to free a candidate by moving items
assigned before, so that no larger assignment exists in the end.
-/

namespace DocMatch.Assignment

/-- An assignment, held from both sides. -/
structure Pairing where
  /-- The expected item that owns an actual one. -/
  owner : Array (Option Nat)
  /-- The actual item assigned to an expected one. -/
  assigned : Array (Option Nat)
deriving DecidableEq, Repr

namespace Pairing

/-- The assignment of nothing. -/
def empty (expectedCount actualCount : Nat) : Pairing :=
  ⟨Array.replicate actualCount none, Array.replicate expectedCount none⟩

/-- The owner of an actual item. -/
def owner? (p : Pairing) (a : Nat) : Option Nat :=
  p.owner[a]?.join

/-- The actual item assigned to an expected one. -/
def assigned? (p : Pairing) (e : Nat) : Option Nat :=
  p.assigned[e]?.join

/-- Give an actual item to an expected one. -/
def pair (p : Pairing) (e a : Nat) : Pairing :=
  ⟨p.owner.setIfInBounds a (some e), p.assigned.setIfInBounds e (some a)⟩

end Pairing

/-- An expected item in a search, with the candidates it has not tried. -/
structure Frame where
  item : Nat
  untried : List Nat
deriving DecidableEq, Repr

/-- A search under way.  The item at the top of the stack looks for a candidate
that is free or whose owner, then put on top of it, finds another one. -/
structure Search where
  /-- For each actual item, whether it has not been met so far. -/
  unmet : Array Bool
  /-- The items that wait for the one above them, the topmost first. -/
  stack : List Frame
  /-- For each item below the top, the candidate it waits for. -/
  via : List Nat
deriving DecidableEq, Repr

/-- Whether an actual item exists and has not been met. -/
def isUnmet (unmet : Array Bool) (a : Nat) : Bool :=
  unmet[a]?.getD false

/-- Note that an actual item has been met. -/
def meet (unmet : Array Bool) (a : Nat) : Array Bool :=
  unmet.setIfInBounds a false

theorem isUnmet_meet (unmet : Array Bool) (a b : Nat) :
    isUnmet (meet unmet a) b = (isUnmet unmet b && b != a) := by
  rw [isUnmet, meet, Array.getElem?_setIfInBounds]
  by_cases h : a = b
  · subst h
    by_cases hlt : a < unmet.size <;> simp [hlt]
  · simp [isUnmet, h, Ne.symm h]

/-- Meeting an item leaves fewer items to meet. -/
theorem count_meet_lt {unmet : Array Bool} {a : Nat} (h : isUnmet unmet a = true) :
    (meet unmet a).count true < unmet.count true := by
  by_cases hlt : a < unmet.size
  · have ha : unmet[a] = true := by simpa [isUnmet, hlt] using h
    have hpos : 0 < unmet.count true :=
      Array.count_pos_iff.2 (Array.mem_of_getElem ha)
    rw [meet, Array.setIfInBounds, dif_pos hlt, Array.count_set hlt]
    simp only [ha, beq_self_eq_true, if_true, Bool.false_beq, Bool.not_true, Bool.false_eq_true,
      if_false, Nat.add_zero]
    exact Nat.sub_lt hpos Nat.one_pos
  · simp [isUnmet, hlt] at h

/-- The untried candidates on the stack, and one for each item of it. -/
def Search.work : List Frame → Nat
  | [] => 0
  | f :: below => f.untried.length + 1 + Search.work below

/-- Where a step of a search leads. -/
inductive Step where
  /-- The search goes on. -/
  | next (s : Search)
  /-- A free actual item has been found for the topmost item. -/
  | found (s : Search) (free : Nat)
  /-- Nothing is left to try. -/
  | failed
deriving DecidableEq, Repr

/-- One step of a search: try the next candidate of the topmost item, or drop the
item if it has none left. -/
def Search.step (p : Pairing) (candidates : Nat → List Nat) (s : Search) : Step :=
  match s.stack with
  | [] => .failed
  | ⟨_, []⟩ :: below => .next ⟨s.unmet, below, s.via.tail⟩
  | ⟨item, a :: untried⟩ :: below =>
      let stack := ⟨item, untried⟩ :: below
      if isUnmet s.unmet a then
        let unmet := meet s.unmet a
        match p.owner? a with
        | none => .found ⟨unmet, stack, s.via⟩ a
        | some next => .next ⟨unmet, ⟨next, candidates next⟩ :: stack, a :: s.via⟩
      else .next ⟨s.unmet, stack, s.via⟩

/-- A step that goes on meets an actual item, or else leaves less work. -/
theorem Search.step_decreases {p : Pairing} {candidates : Nat → List Nat} {s t : Search}
    (h : s.step p candidates = .next t) :
    t.unmet.count true < s.unmet.count true ∨
      t.unmet.count true = s.unmet.count true ∧ work t.stack < work s.stack := by
  obtain ⟨unmet, stack, via⟩ := s
  unfold Search.step at h
  match stack, h with
  | ⟨item, []⟩ :: below, h =>
      cases h
      right
      simp [work]
  | ⟨item, a :: untried⟩ :: below, h =>
      by_cases ha : isUnmet unmet a = true
      · left
        simp only [ha, if_true] at h
        split at h
        · cases h
        · cases h
          exact count_meet_lt ha
      · right
        simp only [ha] at h
        cases h
        simp [work]

/-- Carry a search to its end: the items on the stack and the candidates they
wait for, the topmost first, and the free actual item. -/
def Search.run (p : Pairing) (candidates : Nat → List Nat) (s : Search) :
    Option (Search × Nat) :=
  match _h : s.step p candidates with
  | .next t => t.run p candidates
  | .found t free => some (t, free)
  | .failed => none
termination_by (s.unmet.count true, work s.stack)
decreasing_by
  rcases Search.step_decreases _h with hlt | ⟨heq, hlt⟩
  · exact Prod.Lex.left _ _ hlt
  · rw [heq]
    exact Prod.Lex.right _ hlt

/-- Give the free item to the topmost item of the stack, the candidate it was
waited for with to the one below, and so on. -/
def Pairing.flip (p : Pairing) (free : Nat) : List Frame → List Nat → Pairing
  | [], _ => p
  | frame :: _, [] => p.pair frame.item free
  | frame :: below, a :: via => (p.pair frame.item free).flip a below via

/-- Search a place for one more expected item. -/
def augment (candidates : Nat → List Nat) (actualCount : Nat) (p : Pairing) (start : Nat) :
    Pairing :=
  let search : Search := ⟨Array.replicate actualCount true, [⟨start, candidates start⟩], []⟩
  match search.run p candidates with
  | some (s, free) => p.flip free s.stack s.via
  | none => p

/-- The candidates of an expected item. -/
def candidatesOf (candidates : List (List Nat)) (e : Nat) : List Nat :=
  candidates[e]?.getD []

/-- Assign as many expected items as possible; the answer holds for each of them
the actual item it was given. -/
def maximum (candidates : List (List Nat)) (actualCount : Nat) : List (Option Nat) :=
  let count := candidates.length
  let start := Pairing.empty count actualCount
  ((List.range count).foldl (augment (candidatesOf candidates) actualCount) start).assigned.toList

end DocMatch.Assignment
