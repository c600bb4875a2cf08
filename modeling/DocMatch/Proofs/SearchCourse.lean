import DocMatch.Proofs.Maximum
import Mathlib.Algebra.BigOperators.Fin
import Mathlib.Algebra.Order.BigOperators.Group.Finset
/-!
The course of a search, step by step.  At every step the trail is one shorter than the stack, and
each item on the trail is owned by the item that was put on the stack by way of it.  An actual item
is met once at most.  So the owner of each is looked through once at most, and what is left to do,
counted with the candidates of the owners still to be met, is one less after every step.
-/

namespace DocMatch.Assignment

/-- The number of candidates in all, and one for each expected item. -/
def allowance (candidates : List (List Nat)) : Nat :=
  (candidates.map fun row => row.length + 1).sum

theorem allowance_eq_sum (candidates : List (List Nat)) :
    allowance candidates =
      ∑ e ∈ Finset.range candidates.length, ((candidatesOf candidates e).length + 1) := by
  rw [Finset.sum_range, allowance, ← List.sum_ofFn]
  congr 1
  apply List.ext_getElem <;> simp [candidatesOf]

/-- The two sides of an assignment are inverse to each other. -/
def Pairing.Mutual (p : Pairing) : Prop :=
  ∀ e a, p.assigned? e = some a ↔ p.owner? a = some e

theorem Pairing.Agrees.mutual {p : Pairing} {candidates : Nat → List Nat}
    (h : p.Agrees candidates none) : p.Mutual := by
  intro e a
  simpa using h.assigned_iff e a

namespace Search

variable {p : Pairing} {candidates : Nat → List Nat} {start m n : Nat} {s t u : Search}

/-- A search for a place for an item, before its first step. -/
def init (candidates : Nat → List Nat) (actualCount start : Nat) : Search :=
  ⟨Array.replicate actualCount true, [⟨start, candidates start⟩], []⟩

/-- Where a search leads in so many steps.  One that has ended stays as it is. -/
def after (p : Pairing) (candidates : Nat → List Nat) (s : Search) : Nat → Step
  | 0 => .next s
  | n + 1 =>
      match s.after p candidates n with
      | .next t => t.step p candidates
      | ended => ended

/-- The actual item that the next step meets, if it meets one. -/
def entering (s : Search) : Option Nat :=
  match s.stack with
  | ⟨_, a :: _⟩ :: _ => if isUnmet s.unmet a then some a else none
  | _ => none

/-- How the trail goes along with the stack, both counted from the bottom: it is one shorter, and
each of its items has been met and is owned by the item one place further up on the stack. -/
structure Coupled (p : Pairing) (s : Search) : Prop where
  length_eq : s.stack.length = s.via.length + 1
  met : ∀ k a : Nat, s.via.reverse[k]? = some a → s.unmet[a]? = some false
  owner : ∀ k a : Nat, s.via.reverse[k]? = some a →
    ∃ frame, s.stack.reverse[k + 1]? = some frame ∧ p.owner? a = some frame.item

section Course

theorem after_succ (h : s.after p candidates n = .next t) :
    s.after p candidates (n + 1) = t.step p candidates := by
  rw [after, h]

/-- A search that is under way after some steps was under way before the last of them. -/
theorem after_succ_eq_next (h : s.after p candidates (n + 1) = .next t) :
    ∃ u, s.after p candidates n = .next u ∧ u.step p candidates = .next t := by
  cases hn : s.after p candidates n with
  | next u => exact ⟨u, rfl, after_succ hn ▸ h⟩
  | found u free =>
      rw [after, hn] at h
      cases h
  | failed =>
      rw [after, hn] at h
      cases h

/-- A search that has ended took its last step before. -/
theorem exists_last_step {ended : Step} (h : s.after p candidates n = ended)
    (hended : ∀ t, ended ≠ .next t) :
    ∃ m u, s.after p candidates m = .next u ∧ u.step p candidates = ended := by
  induction n with
  | zero => exact absurd h.symm (hended s)
  | succ n ih =>
      cases hn : s.after p candidates n with
      | next u => exact ⟨n, u, hn, after_succ hn ▸ h⟩
      | found u free =>
          rw [after, hn] at h
          exact ih (hn.trans h)
      | failed =>
          rw [after, hn] at h
          exact ih (hn.trans h)

/-- What each step keeps holds as long as the search is under way. -/
theorem after_induction {motive : Search → Prop} (hinit : motive s)
    (hstep : ∀ t u, motive t → t.step p candidates = .next u → motive u)
    (h : s.after p candidates n = .next t) : motive t := by
  induction n generalizing t with
  | zero =>
      cases h
      exact hinit
  | succ n ih =>
      obtain ⟨u, hu, hlast⟩ := after_succ_eq_next h
      exact hstep u t (ih hu) hlast

theorem after_add (h : s.after p candidates m = .next t) (n : Nat) :
    s.after p candidates (m + n) = t.after p candidates n := by
  induction n with
  | zero => exact h
  | succ n ih => rw [← Nat.add_assoc, after, ih, after]

/-- A search that is under way after some steps was under way after fewer. -/
theorem exists_after_of_le (hmn : m ≤ n) (h : s.after p candidates n = .next u) :
    ∃ t, s.after p candidates m = .next t ∧ t.after p candidates (n - m) = .next u := by
  obtain ⟨t, ht⟩ : ∃ t, s.after p candidates m = .next t := by
    induction n, hmn using Nat.le_induction generalizing u with
    | base => exact ⟨u, h⟩
    | succ n _ ih =>
        obtain ⟨v, hv, -⟩ := after_succ_eq_next h
        exact ih hv
  refine ⟨t, ht, ?_⟩
  rw [← after_add ht, Nat.add_sub_cancel' hmn, h]

theorem Inv.after (h : Inv p candidates start s) (hagrees : p.Agrees candidates none)
    (hafter : s.after p candidates n = .next t) : Inv p candidates start t :=
  after_induction h (fun _ _ hinv => hinv.step hagrees) hafter

/-- A run takes one step and goes on from where it leads. -/
theorem run_eq (p : Pairing) (candidates : Nat → List Nat) (s : Search) :
    s.run p candidates =
      match s.step p candidates with
      | .next t => t.run p candidates
      | .found t free => some (t, free)
      | .failed => none := by
  rw [run]
  split <;> simp_all

theorem run_of_step_next (h : s.step p candidates = .next t) :
    s.run p candidates = t.run p candidates := by
  rw [run_eq, h]

theorem run_of_step_found {free : Nat} (h : s.step p candidates = .found t free) :
    s.run p candidates = some (t, free) := by
  rw [run_eq, h]

theorem run_of_step_failed (h : s.step p candidates = .failed) : s.run p candidates = none := by
  rw [run_eq, h]

theorem run_of_after_next (h : s.after p candidates n = .next t) :
    s.run p candidates = t.run p candidates :=
  after_induction (motive := fun u => s.run p candidates = u.run p candidates) rfl
    (fun _ _ hrun hstep => hrun.trans (run_of_step_next hstep)) h

theorem run_of_after_found {free : Nat} (h : s.after p candidates n = .found t free) :
    s.run p candidates = some (t, free) := by
  obtain ⟨m, u, hu, hlast⟩ := exists_last_step h (by simp)
  exact (run_of_after_next hu).trans (run_of_step_found hlast)

theorem run_of_after_failed (h : s.after p candidates n = .failed) :
    s.run p candidates = none := by
  obtain ⟨m, u, hu, hlast⟩ := exists_last_step h (by simp)
  exact (run_of_after_next hu).trans (run_of_step_failed hlast)

end Course

section Entering

theorem isUnmet_of_entering {a : Nat} (h : s.entering = some a) : isUnmet s.unmet a = true := by
  unfold entering at h
  split at h
  · split at h
    · cases h
      assumption
    · cases h
  · cases h

/-- A step meets the item it is about to meet, and no other. -/
theorem isUnmet_step (h : s.step p candidates = .next t) (b : Nat) :
    isUnmet t.unmet b = (isUnmet s.unmet b && s.entering != some b) := by
  rcases step_next_cases h with ⟨item, below, hstack, rfl⟩ |
    ⟨item, a, untried, below, hstack, ha, rfl⟩ |
    ⟨item, a, untried, below, next, hstack, ha, howner, rfl⟩
  · simp [entering, hstack]
  · simp [entering, hstack, ha]
  · rw [isUnmet_meet, bne_comm]
    simp [entering, hstack, ha, bne]

/-- What has been met stays met. -/
theorem isUnmet_of_after {a : Nat} (h : s.after p candidates n = .next t)
    (ha : isUnmet t.unmet a = true) : isUnmet s.unmet a = true := by
  refine after_induction (motive := fun u => isUnmet u.unmet a = true → isUnmet s.unmet a = true)
    id (fun u v hu hstep hv => hu ?_) h ha
  rw [isUnmet_step hstep, Bool.and_eq_true] at hv
  exact hv.1

/-- No actual item is met twice. -/
theorem entering_ne_of_lt {a : Nat} (hmn : m < n) (hs : s.after p candidates m = .next t)
    (ht : s.after p candidates n = .next u) (ha : t.entering = some a) :
    u.entering ≠ some a := by
  intro hagain
  obtain ⟨v, hv, hlater⟩ := exists_after_of_le hmn ht
  have hunmet := isUnmet_of_after hlater (isUnmet_of_entering hagain)
  rw [isUnmet_step (after_succ hs ▸ hv), ha] at hunmet
  simp at hunmet

end Entering

section Coupling

variable {stack : List Frame} {via : List Nat}

theorem length_of_linked (h : Linked p candidates start stack via) :
    stack.length = via.length + 1 := by
  induction h with
  | start => rfl
  | above _ _ _ ih => simpa using ih

theorem assigned?_of_linked (h : Linked p candidates start stack via) {i a : Nat}
    (ha : via[i]? = some a) :
    ∃ frame, stack[i]? = some frame ∧ p.assigned? frame.item = some a := by
  induction h generalizing i with
  | start => simp at ha
  | above hassigned _ _ ih =>
      cases i with
      | zero => exact ⟨_, rfl, by simpa using hassigned.trans ha⟩
      | succ i => exact ih ha

theorem Inv.coupled (h : Inv p candidates start s) (hagrees : p.Agrees candidates none)
    (hstack : s.stack ≠ []) : s.Coupled p := by
  have hlinked := h.linked hstack
  have hlength := length_of_linked hlinked
  have howner : ∀ k a : Nat, s.via.reverse[k]? = some a →
      ∃ frame, s.stack.reverse[k + 1]? = some frame ∧ p.owner? a = some frame.item := by
    intro k a ha
    have hk : k < s.via.length := by
      simpa using (List.getElem?_eq_some_iff.1 ha).1
    -- counted from the top, the item and its owner have the same place
    rw [List.getElem?_reverse hk] at ha
    obtain ⟨frame, hframe, hassigned⟩ := assigned?_of_linked hlinked ha
    refine ⟨frame, ?_, ((hagrees.assigned_iff _ _).1 hassigned).1⟩
    rw [List.getElem?_reverse (by omega), ← hframe]
    congr 1
    omega
  refine ⟨hlength, fun k a ha => ?_, howner⟩
  obtain ⟨frame, -, hframe⟩ := howner k a ha
  have hlt : a < s.unmet.size := h.size ▸ Pairing.lt_owner_size hframe
  have hmet := h.via_met a (List.mem_reverse.1 (List.mem_of_getElem? ha))
  simpa [isUnmet, hlt] using hmet

end Coupling

section Remaining

/-- What an actual item costs a search that meets it: its owner is put on the stack, with all its
candidates to be tried. -/
def cost (p : Pairing) (candidates : Nat → List Nat) (a : Nat) : Nat :=
  (p.owner? a).elim 0 fun e => (candidates e).length + 1

/-- The steps that a search has left at most: the work on its stack, and what the actual items cost
that it has not met. -/
def remaining (p : Pairing) (candidates : Nat → List Nat) (s : Search) : Nat :=
  work s.stack + ∑ a ∈ Finset.range p.owner.size with isUnmet s.unmet a = true, cost p candidates a

/-- Meeting an owned item moves its cost to the stack. -/
theorem sum_cost_meet (candidates : Nat → List Nat) {unmet : Array Bool} {a e : Nat}
    (ha : isUnmet unmet a = true) (howner : p.owner? a = some e) :
    (candidates e).length + 1 +
        ∑ b ∈ Finset.range p.owner.size with isUnmet (meet unmet a) b = true, cost p candidates b =
      ∑ b ∈ Finset.range p.owner.size with isUnmet unmet b = true, cost p candidates b := by
  have hmem : a ∈ (Finset.range p.owner.size).filter fun b => isUnmet unmet b = true :=
    Finset.mem_filter.2 ⟨Finset.mem_range.2 (Pairing.lt_owner_size howner), ha⟩
  have herase : ((Finset.range p.owner.size).filter fun b => isUnmet (meet unmet a) b = true) =
      ((Finset.range p.owner.size).filter fun b => isUnmet unmet b = true).erase a := by
    ext b
    simp only [Finset.mem_filter, Finset.mem_erase, isUnmet_meet, Bool.and_eq_true, bne_iff_ne]
    tauto
  have hcost : cost p candidates a = (candidates e).length + 1 := by
    simp [cost, howner]
  rw [herase, ← hcost, Finset.add_sum_erase _ _ hmem]

/-- A step that goes on leaves one step less. -/
theorem remaining_step (h : s.step p candidates = .next t) :
    remaining p candidates t + 1 = remaining p candidates s := by
  rcases step_next_cases h with ⟨item, below, hstack, rfl⟩ |
    ⟨item, a, untried, below, hstack, ha, rfl⟩ |
    ⟨item, a, untried, below, next, hstack, ha, howner, rfl⟩
  · simp only [remaining, work, hstack, List.length_nil]
    omega
  · simp only [remaining, work, hstack, List.length_cons]
    omega
  · have hmeet := sum_cost_meet candidates ha howner
    simp only [remaining, work, hstack, List.length_cons]
    omega

theorem remaining_after (h : s.after p candidates n = .next t) :
    n + remaining p candidates t = remaining p candidates s := by
  induction n generalizing t with
  | zero =>
      cases h
      exact Nat.zero_add _
  | succ n ih =>
      obtain ⟨u, hu, hlast⟩ := after_succ_eq_next h
      have hstep := remaining_step hlast
      have hbefore := ih hu
      omega

/-- A search has ended when it has taken one step more than it had left. -/
theorem after_remaining_ended (p : Pairing) (candidates : Nat → List Nat) (s : Search) :
    s.after p candidates (remaining p candidates s + 1) = .failed ∨
      ∃ t free, s.after p candidates (remaining p candidates s + 1) = .found t free := by
  cases h : s.after p candidates (remaining p candidates s + 1) with
  | next t =>
      have hleft := remaining_after h
      omega
  | found t free => exact Or.inr ⟨t, free, rfl⟩
  | failed => exact Or.inl rfl

/-- The costs of all actual items are those of the expected items that have a place. -/
theorem sum_cost_eq (hagrees : p.Agrees candidates none) :
    ∑ a ∈ Finset.range p.owner.size, cost p candidates a =
      ∑ e ∈ p.placed, ((candidates e).length + 1) := by
  have hplaced : ∀ e ∈ p.placed, ∃ a, p.assigned? e = some a ∧ p.owner? a = some e := by
    intro e he
    obtain ⟨a, ha⟩ := Option.isSome_iff_exists.1 (Pairing.mem_placed.1 he)
    exact ⟨a, ha, ((hagrees.assigned_iff e a).1 ha).1⟩
  symm
  -- an item's place tells the item, and what is nobody's place costs nothing
  refine Finset.sum_of_injOn (fun e => (p.assigned? e).getD 0) ?_ ?_ ?_ ?_
  · intro e he d hd hsame
    obtain ⟨a, ha, howner⟩ := hplaced e he
    obtain ⟨b, hb, hother⟩ := hplaced d hd
    simp only [ha, hb, Option.getD_some] at hsame
    rw [hsame, hother] at howner
    exact (Option.some.inj howner).symm
  · intro e he
    obtain ⟨a, ha, howner⟩ := hplaced e he
    simpa [ha] using Pairing.lt_owner_size howner
  · intro a _ hnot
    cases howner : p.owner? a with
    | none => simp [cost, howner]
    | some e =>
        have ha : p.assigned? e = some a := (hagrees.assigned_iff e a).2 ⟨howner, by simp⟩
        exact absurd ⟨e, Pairing.mem_placed.2 (by simp [ha]), by simp [ha]⟩ hnot
  · intro e he
    obtain ⟨a, ha, howner⟩ := hplaced e he
    simp [cost, ha, howner]

/-- A search begins with no more to do than there are candidates and expected items. -/
theorem remaining_init_le {rows : List (List Nat)} (hagrees : p.Agrees (candidatesOf rows) none)
    (hnone : p.assigned? start = none) (hcount : p.assigned.size = rows.length)
    (hstart : start < rows.length) :
    remaining p (candidatesOf rows) (init (candidatesOf rows) p.owner.size start) ≤
      allowance rows := by
  have hall : ((Finset.range p.owner.size).filter fun a =>
      isUnmet (Array.replicate p.owner.size true) a = true) = Finset.range p.owner.size := by
    refine Finset.filter_true_of_mem fun a ha => ?_
    simpa [isUnmet_replicate] using ha
  have hplaced : p.placed ⊆ (Finset.range rows.length).erase start := by
    intro e he
    refine Finset.mem_erase.2 ⟨?_, hcount ▸ Finset.filter_subset _ _ he⟩
    rintro rfl
    simp [Pairing.mem_placed, hnone] at he
  calc
    remaining p (candidatesOf rows) (init (candidatesOf rows) p.owner.size start)
      = (candidatesOf rows start).length + 1 +
          ∑ e ∈ p.placed, ((candidatesOf rows e).length + 1) := by
        rw [remaining, init, hall, sum_cost_eq hagrees]
        rfl
    _ ≤ (candidatesOf rows start).length + 1 +
          ∑ e ∈ (Finset.range rows.length).erase start, ((candidatesOf rows e).length + 1) :=
        Nat.add_le_add_left (Finset.sum_le_sum_of_subset hplaced) _
    _ = ∑ e ∈ Finset.range rows.length, ((candidatesOf rows e).length + 1) :=
        Finset.add_sum_erase _ (fun e => (candidatesOf rows e).length + 1)
          (Finset.mem_range.2 hstart)
    _ = allowance rows := (allowance_eq_sum rows).symm

end Remaining

section Ends

/-- Where the search for a place for an item is after so many steps. -/
def course (rows : List (List Nat)) (actualCount : Nat) (p : Pairing) (start n : Nat) : Step :=
  (init (candidatesOf rows) actualCount start).after p (candidatesOf rows) n

variable {rows : List (List Nat)} {free : Nat}

/-- The search for a place for an item has ended after the steps it is allowed and one more. -/
theorem course_ends (hagrees : p.Agrees (candidatesOf rows) none)
    (hnone : p.assigned? start = none) (hcount : p.assigned.size = rows.length)
    (hstart : start < rows.length) :
    ∃ n ≤ allowance rows + 1, course rows p.owner.size p start n = .failed ∨
      ∃ t free, course rows p.owner.size p start n = .found t free :=
  ⟨_, Nat.succ_le_succ (remaining_init_le hagrees hnone hcount hstart),
    after_remaining_ended p (candidatesOf rows) _⟩

theorem Inv.found_of_run (h : Inv p candidates start s) (hagrees : p.Agrees candidates none)
    (hrun : s.run p candidates = some (t, free)) : Found p candidates start t free := by
  rcases h.run hagrees with ⟨u, target, hu, hfound⟩ | ⟨hu, -⟩
  · obtain ⟨rfl, rfl⟩ : t = u ∧ free = target := by
      simpa using hrun.symm.trans hu
    exact hfound
  · cases hrun.symm.trans hu

/-- A search that has found a free candidate makes room for one more pair, and all that have a
place keep one. -/
theorem Found.grows (h : Found p candidates start t free) (hagrees : p.Agrees candidates none)
    (hnone : p.assigned? start = none) (hstart : start < p.assigned.size) :
    (p.flip free t.stack t.via).Mutual ∧
      (p.flip free t.stack t.via).pairs.card = p.pairs.card + 1 ∧
      ∀ e, (p.assigned? e).isSome → ((p.flip free t.stack t.via).assigned? e).isSome := by
  obtain ⟨hflip, hextends⟩ := h.flip hagrees hnone hstart
  refine ⟨hflip.mutual, ?_, fun e he => (hextends.isSome_iff e).2 (Or.inr he)⟩
  have hnew : start ∉ p.placed := by
    simp [Pairing.mem_placed, hnone]
  rw [hflip.card_pairs, Pairing.placed_of_extends hextends, Finset.card_insert_of_notMem hnew,
    ← hagrees.card_pairs]

end Ends

end Search

section Augment

variable {p : Pairing} {candidates : Nat → List Nat} {actualCount start free : Nat} {s : Search}

theorem augment_of_found
    (h : (Search.init candidates actualCount start).run p candidates = some (s, free)) :
    augment candidates actualCount p start = p.flip free s.stack s.via := by
  rw [Search.init] at h
  simp only [augment, h]

theorem augment_of_failed
    (h : (Search.init candidates actualCount start).run p candidates = none) :
    augment candidates actualCount p start = p := by
  rw [Search.init] at h
  simp only [augment, h]

end Augment

end DocMatch.Assignment
