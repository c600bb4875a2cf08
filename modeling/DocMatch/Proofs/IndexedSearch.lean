import DocMatch.Proofs.SearchCourse
/-!
Assigning by index.  The search and the exchange of places along its stack are written here as they
run on tables: a stack and a trail that grow at their ends, and in each item of the stack the
position of the candidate to be tried next.  Nothing is promised about an index; one that lies
outside its table leaves the whole without a result, and so does a search that takes more steps
than it is allowed.  There always is a result, and it is the greatest assignment.
-/

namespace DocMatch.Assignment

/-- Write at a place that a table has. -/
def put? {α : Type} (table : Array α) (i : Nat) (x : α) : Option (Array α) :=
  if i < table.size then some (table.setIfInBounds i x) else none

theorem put?_eq_some {α : Type} {table : Array α} {i : Nat} (hi : i < table.size) (x : α) :
    put? table i x = some (table.setIfInBounds i x) :=
  if_pos hi

/-- An expected item in a search, with the position of the candidate it tries next. -/
structure Cursor where
  item : Nat
  position : Nat
deriving DecidableEq, Repr

/-- The candidates of a cursor's item from its position on. -/
def Cursor.frame (candidates : List (List Nat)) (c : Cursor) : Frame :=
  ⟨c.item, (candidatesOf candidates c.item).drop c.position⟩

/-- A search under way, with the item that waits longest at the beginning of its stack. -/
structure IndexedSearch where
  unmet : Array Bool
  stack : Array Cursor
  via : Array Nat
deriving DecidableEq, Repr

/-- The search seen from the top of its stack. -/
def IndexedSearch.view (candidates : List (List Nat)) (s : IndexedSearch) : Search :=
  ⟨s.unmet, (s.stack.toList.map (Cursor.frame candidates)).reverse, s.via.toList.reverse⟩

/-- Where a step of an indexed search leads. -/
inductive IndexedStep where
  | next (s : IndexedSearch)
  | found (s : IndexedSearch) (free : Nat)
  | failed
deriving DecidableEq, Repr

/-- Where the step leads, seen from the top of the stack. -/
def IndexedStep.view (candidates : List (List Nat)) : IndexedStep → Step
  | .next s => .next (s.view candidates)
  | .found s free => .found (s.view candidates) free
  | .failed => .failed

namespace IndexedSearch

/-- A search for a place for an item, before its first step. -/
def init (actualCount start : Nat) : IndexedSearch :=
  ⟨Array.replicate actualCount true, #[⟨start, 0⟩], #[]⟩

/-- One step of a search, without a result if it reads or writes outside a table. -/
def step? (candidates : List (List Nat)) (actualCount : Nat) (p : Pairing) (s : IndexedSearch) :
    Option IndexedStep :=
  match s.stack.back? with
  | none => some .failed
  | some top => do
      let row ← candidates[top.item]?
      if row.length ≤ top.position then
        some (.next ⟨s.unmet, s.stack.pop, s.via.pop⟩)
      else do
        let a ← row[top.position]?
        let stack := s.stack.pop.push ⟨top.item, top.position + 1⟩
        if actualCount ≤ a then
          some (.next ⟨s.unmet, stack, s.via⟩)
        else do
          let isUnmet ← s.unmet[a]?
          if isUnmet then do
            let unmet ← put? s.unmet a false
            let owner ← p.owner[a]?
            match owner with
            | none => some (.found ⟨unmet, stack, s.via⟩ a)
            | some next => some (.next ⟨unmet, stack.push ⟨next, 0⟩, s.via.push a⟩)
          else
            some (.next ⟨s.unmet, stack, s.via⟩)

/-- Carry a search to its end in no more than so many steps.  There is no result if they do not
suffice or if one of them has none. -/
def run? (candidates : List (List Nat)) (actualCount : Nat) (p : Pairing) :
    Nat → IndexedSearch → Option (Option (IndexedSearch × Nat))
  | 0, _ => none
  | allowed + 1, s => do
      let outcome ← s.step? candidates actualCount p
      match outcome with
      | .next t => run? candidates actualCount p allowed t
      | .found t free => some (some (t, free))
      | .failed => some none

end IndexedSearch

/-- Give the free item to the topmost of the first so many items of the stack, the candidate on the
trail below it to the item below, and so on. -/
def Pairing.flip? (stack : Array Cursor) (via : Array Nat) : Nat → Nat → Pairing → Option Pairing
  | 0, _, p => some p
  | k + 1, free, p => do
      let top ← stack[k]?
      let owner ← put? p.owner free (some top.item)
      let assigned ← put? p.assigned top.item (some free)
      if k = 0 then
        some ⟨owner, assigned⟩
      else do
        let next ← via[k - 1]?
        flip? stack via k next ⟨owner, assigned⟩

/-- Search a place for one more expected item. -/
def augment? (candidates : List (List Nat)) (actualCount : Nat) (p : Pairing) (start : Nat) :
    Option Pairing := do
  let outcome ← IndexedSearch.run? candidates actualCount p (allowance candidates + 1)
    (.init actualCount start)
  match outcome with
  | some (s, free) => p.flip? s.stack s.via s.stack.size free
  | none => some p

/-- Assign as many expected items as possible. -/
def maximum? (candidates : List (List Nat)) (actualCount : Nat) : Option (List (Option Nat)) := do
  let start := Pairing.empty candidates.length actualCount
  let p ← (List.range candidates.length).foldlM (augment? candidates actualCount) start
  some p.assigned.toList

namespace IndexedSearch

variable {candidates : List (List Nat)} {p : Pairing} {s : IndexedSearch} {start : Nat}

theorem view_init (candidates : List (List Nat)) (actualCount start : Nat) :
    (init actualCount start).view candidates =
      Search.init (candidatesOf candidates) actualCount start := by
  simp [view, init, Search.init, Cursor.frame]

theorem view_push {unmet : Array Bool} {stack : Array Cursor} {via : Array Nat} (c : Cursor) :
    view candidates ⟨unmet, stack.push c, via⟩ =
      ⟨unmet, c.frame candidates :: (stack.toList.map (Cursor.frame candidates)).reverse,
        via.toList.reverse⟩ := by
  simp [view]

theorem frame_of_length_le {c : Cursor}
    (h : (candidatesOf candidates c.item).length ≤ c.position) :
    c.frame candidates = ⟨c.item, []⟩ := by
  rw [Cursor.frame, List.drop_eq_nil_of_le h]

theorem frame_of_getElem? {c : Cursor} {a : Nat}
    (h : (candidatesOf candidates c.item)[c.position]? = some a) :
    c.frame candidates =
      ⟨c.item, a :: (candidatesOf candidates c.item).drop (c.position + 1)⟩ := by
  obtain ⟨hlt, rfl⟩ := List.getElem?_eq_some_iff.1 h
  rw [Cursor.frame, List.drop_eq_getElem_cons hlt]

section Step

variable {unmet : Array Bool} {below : Array Cursor} {via : Array Nat} {top : Cursor} {a : Nat}

theorem getElem?_candidates {e : Nat} (he : e < candidates.length) :
    candidates[e]? = some (candidatesOf candidates e) := by
  simp [candidatesOf, he]

theorem step?_of_length_le (hitem : top.item < candidates.length)
    (hlength : (candidatesOf candidates top.item).length ≤ top.position) :
    step? candidates p.owner.size p ⟨unmet, below.push top, via⟩ =
      some (.next ⟨unmet, below, via.pop⟩) := by
  simp [step?, getElem?_candidates hitem, hlength]

/-- A candidate that does not exist is not looked up. -/
theorem step?_of_met (hitem : top.item < candidates.length)
    (ha : (candidatesOf candidates top.item)[top.position]? = some a)
    (hsize : unmet.size = p.owner.size) (hmet : isUnmet unmet a = false) :
    step? candidates p.owner.size p ⟨unmet, below.push top, via⟩ =
      some (.next ⟨unmet, below.push ⟨top.item, top.position + 1⟩, via⟩) := by
  have hposition := Nat.not_le_of_lt (List.getElem?_eq_some_iff.1 ha).1
  by_cases hbound : p.owner.size ≤ a
  · simp [step?, getElem?_candidates hitem, hposition, ha, hbound]
  · have hread : unmet[a]? = some false := by
      simpa [isUnmet, hsize, Nat.lt_of_not_le hbound] using hmet
    simp [step?, getElem?_candidates hitem, hposition, ha, hbound, hread]

theorem step?_of_unmet (hitem : top.item < candidates.length)
    (ha : (candidatesOf candidates top.item)[top.position]? = some a)
    (hsize : unmet.size = p.owner.size) (hunmet : isUnmet unmet a = true) :
    step? candidates p.owner.size p ⟨unmet, below.push top, via⟩ =
      some (match p.owner? a with
        | none => .found ⟨meet unmet a, below.push ⟨top.item, top.position + 1⟩, via⟩ a
        | some next => .next ⟨meet unmet a,
            (below.push ⟨top.item, top.position + 1⟩).push ⟨next, 0⟩, via.push a⟩) := by
  have hposition := Nat.not_le_of_lt (List.getElem?_eq_some_iff.1 ha).1
  have hlt := Search.lt_size_of_isUnmet hunmet
  have hread : unmet[a]? = some true := by
    simpa [isUnmet, hlt] using hunmet
  have hwrite : put? unmet a false = some (meet unmet a) := put?_eq_some hlt false
  rw [hsize] at hlt
  have howner : p.owner[a]? = some (p.owner? a) := by
    simp [Pairing.owner?, hlt]
  cases hnext : p.owner? a <;>
    simp [step?, getElem?_candidates hitem, hposition, ha, Nat.not_le_of_lt hlt, hread, hwrite,
      howner, hnext]

/-- A step within the tables has a result, which is that of the search. -/
theorem step?_eq (hsize : s.unmet.size = p.owner.size)
    (hitems : ∀ c ∈ s.stack, c.item < candidates.length) :
    ∃ r, s.step? candidates p.owner.size p = some r ∧
      r.view candidates = (s.view candidates).step p (candidatesOf candidates) := by
  obtain ⟨unmet, stack, via⟩ := s
  cases htop : stack.back? with
  | none =>
      obtain rfl := Array.back?_eq_none_iff.1 htop
      exact ⟨.failed, rfl, rfl⟩
  | some top =>
      obtain ⟨below, rfl⟩ := Array.back?_eq_some_iff.1 htop
      have hitem := hitems top (by simp)
      by_cases hlength : (candidatesOf candidates top.item).length ≤ top.position
      · refine ⟨_, step?_of_length_le hitem hlength, ?_⟩
        rw [view_push, frame_of_length_le hlength]
        simp [IndexedStep.view, view, Search.step]
      · have hposition := Nat.lt_of_not_le hlength
        obtain ⟨a, ha⟩ : ∃ a, (candidatesOf candidates top.item)[top.position]? = some a :=
          ⟨_, List.getElem?_eq_getElem hposition⟩
        rw [view_push, frame_of_getElem? ha]
        cases hunmet : isUnmet unmet a with
        | false =>
            refine ⟨_, step?_of_met hitem ha hsize hunmet, ?_⟩
            simp [IndexedStep.view, view_push, Search.step, hunmet, Cursor.frame]
        | true =>
            refine ⟨_, step?_of_unmet hitem ha hsize hunmet, ?_⟩
            cases hnext : p.owner? a <;>
              simp [IndexedStep.view, view_push, Search.step, hunmet, hnext, Cursor.frame]

end Step

section Run

/-- Every item of the stack is the first one or has a place. -/
theorem item_lt_of_linked
    (h : (s.view candidates).stack ≠ [] →
      Linked p (candidatesOf candidates) start (s.view candidates).stack (s.view candidates).via)
    (hstart : start < p.assigned.size) : ∀ c ∈ s.stack, c.item < p.assigned.size := by
  intro c hc
  have hframe : c.frame candidates ∈ (s.view candidates).stack := by
    simp only [view, List.mem_reverse]
    exact List.mem_map_of_mem (Array.mem_toList_iff.2 hc)
  have hitem : (c.frame candidates).item = c.item := rfl
  rcases (h (List.ne_nil_of_mem hframe)).item_cases hframe with hsame | ⟨a, -, hassigned⟩
  · rwa [← hitem, hsame]
  · exact Pairing.lt_assigned_size hassigned

/-- Every item of the trail has an owner. -/
theorem via_lt_of_linked (hagrees : p.Agrees (candidatesOf candidates) none)
    (h : Linked p (candidatesOf candidates) start (s.view candidates).stack
      (s.view candidates).via) : ∀ a ∈ s.via, a < p.owner.size := by
  intro a ha
  have hmem : a ∈ (s.view candidates).via := List.mem_reverse.2 (Array.mem_toList_iff.2 ha)
  obtain ⟨i, hi⟩ := List.mem_iff_getElem?.1 hmem
  obtain ⟨frame, -, hassigned⟩ := Search.assigned?_of_linked h hi
  exact Pairing.lt_owner_size ((hagrees.assigned_iff _ _).1 hassigned).1

/-- A search that is allowed the steps it has left has a result, which is that of the search. -/
theorem run?_eq {allowed : Nat} (hagrees : p.Agrees (candidatesOf candidates) none)
    (hcount : p.assigned.size = candidates.length) (hstart : start < candidates.length)
    (hinv : Search.Inv p (candidatesOf candidates) start (s.view candidates))
    (hleft : Search.remaining p (candidatesOf candidates) (s.view candidates) < allowed) :
    ∃ r, run? candidates p.owner.size p allowed s = some r ∧
      r.map (fun q => (q.1.view candidates, q.2)) =
        (s.view candidates).run p (candidatesOf candidates) := by
  induction allowed generalizing s with
  | zero => exact absurd hleft (Nat.not_lt_zero _)
  | succ allowed ih =>
      obtain ⟨outcome, houtcome, hview⟩ :=
        step?_eq hinv.size (hcount ▸ item_lt_of_linked hinv.linked (hcount ▸ hstart))
      cases outcome with
      | next t =>
          have hstep : (s.view candidates).step p (candidatesOf candidates) =
              .next (t.view candidates) := hview.symm
          have hfewer := Search.remaining_step hstep
          obtain ⟨r, hr, hresult⟩ := ih (hinv.step hagrees hstep) (by omega)
          refine ⟨r, by simp [run?, houtcome, hr], ?_⟩
          exact hresult.trans (Search.run_of_step_next hstep).symm
      | found t free =>
          refine ⟨some (t, free), by simp [run?, houtcome], ?_⟩
          exact (Search.run_of_step_found hview.symm).symm
      | failed =>
          refine ⟨none, by simp [run?, houtcome], ?_⟩
          exact (Search.run_of_step_failed hview.symm).symm

end Run

end IndexedSearch

section Exchange

variable {stack : Array Cursor} {via : Array Nat} {p : Pairing} {top : Cursor} {k a free : Nat}

theorem map_take_reverse {α β : Type} {table : Array α} {x : α} (f : α → β)
    (hx : table[k]? = some x) :
    ((table.toList.take (k + 1)).map f).reverse = f x :: ((table.toList.take k).map f).reverse := by
  rw [List.take_add_one, Array.getElem?_toList, hx]
  simp

/-- The item at the bottom of the stack is the last that is given something. -/
theorem flip?_bottom (htop : stack[0]? = some top) (hitem : top.item < p.assigned.size)
    (hfree : free < p.owner.size) :
    p.flip? stack via 1 free = some (p.pair top.item free) := by
  simp [Pairing.flip?, htop, put?_eq_some, hitem, hfree, Pairing.pair]

/-- An item further up is given the free one, and the item below it what is on the trail. -/
theorem flip?_above (htop : stack[k + 1]? = some top) (ha : via[k]? = some a)
    (hitem : top.item < p.assigned.size) (hfree : free < p.owner.size) :
    p.flip? stack via (k + 2) free = (p.pair top.item free).flip? stack via (k + 1) a := by
  rw [Pairing.flip?]
  simp [htop, put?_eq_some, hitem, hfree, ha, Pairing.pair]

/-- The exchange along the stack and the trail has a result, which is that of `flip`. -/
theorem flip?_eq (candidates : List (List Nat)) (hlength : stack.size = via.size + 1)
    (hk : k ≤ via.size) (hitems : ∀ c ∈ stack, c.item < p.assigned.size)
    (hvia : ∀ a ∈ via, a < p.owner.size) (hfree : free < p.owner.size) :
    p.flip? stack via (k + 1) free =
      some (p.flip free ((stack.toList.take (k + 1)).map (Cursor.frame candidates)).reverse
        (via.toList.take k).reverse) := by
  induction k generalizing p free with
  | zero =>
      obtain ⟨top, htop⟩ : ∃ top, stack[0]? = some top :=
        ⟨_, Array.getElem?_eq_getElem (by omega)⟩
      rw [flip?_bottom htop (hitems top (Array.mem_of_getElem? htop)) hfree,
        map_take_reverse _ htop]
      rfl
  | succ k ih =>
      obtain ⟨top, htop⟩ : ∃ top, stack[k + 1]? = some top :=
        ⟨_, Array.getElem?_eq_getElem (by omega)⟩
      obtain ⟨a, ha⟩ : ∃ a, via[k]? = some a := ⟨_, Array.getElem?_eq_getElem (by omega)⟩
      have htrail : (via.toList.take (k + 1)).reverse = a :: (via.toList.take k).reverse := by
        simpa only [List.map_id, id] using map_take_reverse id ha
      rw [flip?_above htop ha (hitems top (Array.mem_of_getElem? htop)) hfree,
        map_take_reverse _ htop, htrail, Pairing.flip]
      refine ih (Nat.le_of_succ_le hk) ?_ ?_ ?_
      · rwa [Pairing.assigned_size_pair]
      · rwa [Pairing.owner_size_pair]
      · rw [Pairing.owner_size_pair]
        exact hvia a (Array.mem_of_getElem? ha)

end Exchange

section Rounds

variable {candidates : List (List Nat)} {actualCount k start : Nat} {p : Pairing}

/-- The exchange after a search that has found a free candidate has a result. -/
theorem flip?_of_found {s : IndexedSearch} {free : Nat}
    (hagrees : p.Agrees (candidatesOf candidates) none) (hstart : start < p.assigned.size)
    (hfound : Search.Found p (candidatesOf candidates) start (s.view candidates) free) :
    p.flip? s.stack s.via s.stack.size free =
      some (p.flip free (s.view candidates).stack (s.view candidates).via) := by
  have hlength : s.stack.size = s.via.size + 1 := by
    simpa [IndexedSearch.view] using Search.length_of_linked hfound.linked
  have hflip := flip?_eq candidates hlength (Nat.le_refl _)
    (IndexedSearch.item_lt_of_linked (fun _ => hfound.linked) hstart)
    (IndexedSearch.via_lt_of_linked hagrees hfound.linked) hfound.lt_size
  rw [hlength, hflip, List.take_of_length_le (by simp [hlength]),
    List.take_of_length_le (by simp)]
  rfl

/-- A round by index has a result, which is that of the round. -/
theorem augment?_eq (hagrees : p.Agrees (candidatesOf candidates) none)
    (hnone : p.assigned? start = none) (hcount : p.assigned.size = candidates.length)
    (hstart : start < candidates.length) :
    augment? candidates p.owner.size p start =
      some (augment (candidatesOf candidates) p.owner.size p start) := by
  have hinv := Search.inv_init p (candidatesOf candidates) start
  have hview := IndexedSearch.view_init candidates p.owner.size start
  have hleft := Search.remaining_init_le hagrees hnone hcount hstart
  rw [← hview] at hleft
  obtain ⟨r, hr, hresult⟩ :=
    IndexedSearch.run?_eq hagrees hcount hstart (hview ▸ hinv) (Nat.lt_succ_of_le hleft)
  rw [hview] at hresult
  cases r with
  | none =>
      rw [augment_of_failed hresult.symm, augment?, hr]
      rfl
  | some found =>
      obtain ⟨s, free⟩ := found
      have hrun : (Search.init (candidatesOf candidates) p.owner.size start).run p
          (candidatesOf candidates) = some (s.view candidates, free) := hresult.symm
      rw [augment_of_found hrun, augment?, hr]
      exact flip?_of_found hagrees (hcount ▸ hstart) (hinv.found_of_run hagrees hrun)

theorem foldlM_augment?_eq (candidates : List (List Nat)) (actualCount : Nat)
    (hk : k ≤ candidates.length) :
    (List.range k).foldlM (augment? candidates actualCount)
        (Pairing.empty candidates.length actualCount) =
      some (rounds (candidatesOf candidates) candidates.length actualCount k) := by
  induction k with
  | zero => rfl
  | succ k ih =>
      have hround := optimal_rounds (candidatesOf candidates) actualCount (Nat.le_of_lt hk)
      have haugment := augment?_eq hround.agrees hround.assigned?_eq_none hround.assigned_size hk
      rw [hround.owner_size] at haugment
      rw [List.range_succ, List.foldlM_append, ih (Nat.le_of_lt hk), rounds_succ]
      simp [haugment]

/-- Assigning by index has a result, which is the greatest assignment. -/
theorem maximum?_eq (candidates : List (List Nat)) (actualCount : Nat) :
    maximum? candidates actualCount = some (maximum candidates actualCount) := by
  rw [maximum?, foldlM_augment?_eq candidates actualCount (Nat.le_refl _)]
  rfl

/-- What holds of the search in each round.  No index is out of bounds: assigning by index has a
result, the greatest assignment.  Before the search the two sides of the assignment are inverse to
each other; as long as there is a stack, the trail goes along with it; no actual item is met twice;
and the search ends.  Once it has found a free item, moving the items on its stack leaves the two
sides inverse to each other, with one pair more and all that had a place still in one. -/
theorem augmenting_search_safe_and_ends (candidates : List (List Nat)) (actualCount : Nat) :
    maximum? candidates actualCount = some (maximum candidates actualCount) ∧
    ∀ k < candidates.length, ∀ p q : Pairing,
      p = rounds (candidatesOf candidates) candidates.length actualCount k →
      q = rounds (candidatesOf candidates) candidates.length actualCount (k + 1) →
      p.Mutual ∧
      (∀ n s, Search.course candidates actualCount p k n = .next s → s.stack ≠ [] →
        s.Coupled p) ∧
      (∀ m n s t a, m < n → Search.course candidates actualCount p k m = .next s →
        Search.course candidates actualCount p k n = .next t → s.entering = some a →
        t.entering ≠ some a) ∧
      ∃ n ≤ allowance candidates + 1,
        (Search.course candidates actualCount p k n = .failed ∧ q = p) ∨
        ∃ s free, Search.course candidates actualCount p k n = .found s free ∧
          q = p.flip free s.stack s.via ∧ q.Mutual ∧ q.pairs.card = p.pairs.card + 1 ∧
          ∀ e, (p.assigned? e).isSome → (q.assigned? e).isSome := by
  refine ⟨maximum?_eq candidates actualCount, ?_⟩
  rintro k hk p q hp rfl
  have hround := optimal_rounds (candidatesOf candidates) actualCount (Nat.le_of_lt hk)
  rw [← hp] at hround
  obtain rfl := hround.owner_size
  have hinv := Search.inv_init p (candidatesOf candidates) k
  refine ⟨hround.agrees.mutual, ?_, ?_, ?_⟩
  · exact fun n s hs => (hinv.after hround.agrees hs).coupled hround.agrees
  · exact fun m n s t a hmn hs ht => Search.entering_ne_of_lt hmn hs ht
  · obtain ⟨n, hn, hended⟩ :=
      Search.course_ends hround.agrees hround.assigned?_eq_none hround.assigned_size hk
    rw [rounds_succ, ← hp]
    refine ⟨n, hn, hended.imp (fun hfailed => ⟨hfailed, ?_⟩) ?_⟩
    · exact augment_of_failed (Search.run_of_after_failed hfailed)
    · rintro ⟨s, free, hs⟩
      have hrun := Search.run_of_after_found hs
      have hfound := hinv.found_of_run hround.agrees hrun
      rw [augment_of_found hrun]
      exact ⟨s, free, hs, rfl, hfound.grows hround.agrees hround.assigned?_eq_none
        (hround.assigned_size ▸ hk)⟩

/-- The last of three items fits at one place only, so both others move on. -/
theorem last_item_shifts_the_others :
    ∃ (p q : Pairing) (s t u : Search),
      p = rounds (candidatesOf [[0, 1], [1, 2], [0]]) 3 3 2 ∧
      q = rounds (candidatesOf [[0, 1], [1, 2], [0]]) 3 3 3 ∧
      Search.course [[0, 1], [1, 2], [0]] 3 p 2 0 = .next s ∧
      Search.course [[0, 1], [1, 2], [0]] 3 p 2 4 = .next t ∧
      Search.course [[0, 1], [1, 2], [0]] 3 p 2 5 = .found u 2 ∧
      s.entering = some 0 ∧ t.entering ≠ some 0 ∧ t.via = [1, 0] ∧ t.Coupled p ∧
      p.Mutual ∧ p.assigned = #[some 0, some 1, none] ∧
      q.Mutual ∧ q.assigned = #[some 1, some 2, some 0] ∧ q.pairs.card = p.pairs.card + 1 ∧
      (q.assigned? 0).isSome ∧
      maximum? [[0, 1], [1, 2], [0]] 3 = some [some 1, some 2, some 0] := by
  have hbefore : rounds (candidatesOf [[0, 1], [1, 2], [0]]) 3 3 2 =
      ⟨#[some 0, some 1, none], #[some 0, some 1, none]⟩ := by cbv
  have hafter : rounds (candidatesOf [[0, 1], [1, 2], [0]]) 3 3 3 =
      ⟨#[some 2, some 0, some 1], #[some 1, some 2, some 0]⟩ := by cbv
  have hanswer : maximum [[0, 1], [1, 2], [0]] 3 = [some 1, some 2, some 0] := by cbv
  have hfirst : Search.course [[0, 1], [1, 2], [0]] 3
      ⟨#[some 0, some 1, none], #[some 0, some 1, none]⟩ 2 0 =
        .next ⟨#[true, true, true], [⟨2, [0]⟩], []⟩ := by rfl
  have hlast : Search.course [[0, 1], [1, 2], [0]] 3
      ⟨#[some 0, some 1, none], #[some 0, some 1, none]⟩ 2 4 =
        .next ⟨#[false, false, true], [⟨1, [2]⟩, ⟨0, []⟩, ⟨2, []⟩], [1, 0]⟩ := by rfl
  obtain ⟨hmaximum, hsearch⟩ := augmenting_search_safe_and_ends [[0, 1], [1, 2], [0]] 3
  obtain ⟨hmutual, hcoupled, hentering, n, -, hends⟩ :=
    hsearch 2 (by decide) _ _ hbefore.symm hafter.symm
  rw [hanswer] at hmaximum
  rcases hends with ⟨-, hsame⟩ | ⟨s, free, -, -, hgrown, hcard, hkeeps⟩
  · cases hsame
  · exact ⟨_, _, _, _, ⟨#[false, false, false], [⟨1, []⟩, ⟨0, []⟩, ⟨2, []⟩], [1, 0]⟩,
      hbefore.symm, hafter.symm, hfirst, hlast, rfl, rfl,
      hentering 0 4 _ _ 0 (by decide) hfirst hlast rfl, rfl, hcoupled 4 _ hlast (by simp), hmutual,
      rfl, hgrown, rfl, hcard, hkeeps 0 rfl, hmaximum⟩

end Rounds

end DocMatch.Assignment
