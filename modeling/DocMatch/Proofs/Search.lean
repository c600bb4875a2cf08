import DocMatch.Assignment
import Mathlib.Data.Finset.Card
/-!
The augmenting search behind an assignment.  While it runs, every item that waits
on the stack was reached by way of a candidate that the item above it owns, and
everything reached so far is either owned and looked through or still to be tried.
A search that ends with a free candidate therefore moves the items on its stack
to an assignment with one more pair; a search that ends without one has found a
set of owned candidates that its items cannot leave.
-/

namespace DocMatch.Assignment

namespace Pairing

variable {p : Pairing} {candidates : Nat → List Nat} {e a : Nat}

theorem owner_size_pair (p : Pairing) (e a : Nat) :
    (p.pair e a).owner.size = p.owner.size := by
  simp [pair]

theorem assigned_size_pair (p : Pairing) (e a : Nat) :
    (p.pair e a).assigned.size = p.assigned.size := by
  simp [pair]

theorem owner?_pair (ha : a < p.owner.size) (b : Nat) :
    (p.pair e a).owner? b = if b = a then some e else p.owner? b := by
  rw [owner?, pair, Array.getElem?_setIfInBounds]
  by_cases h : b = a
  · subst h
    simp [ha]
  · simp [owner?, h, Ne.symm h]

theorem assigned?_pair (he : e < p.assigned.size) (d : Nat) :
    (p.pair e a).assigned? d = if d = e then some a else p.assigned? d := by
  rw [assigned?, pair, Array.getElem?_setIfInBounds]
  by_cases h : d = e
  · subst h
    simp [he]
  · simp [assigned?, h, Ne.symm h]

theorem lt_owner_size (h : p.owner? a = some e) : a < p.owner.size := by
  by_contra hge
  simp [owner?, Array.getElem?_eq_none (Nat.le_of_not_lt hge)] at h

theorem lt_assigned_size (h : p.assigned? e = some a) : e < p.assigned.size := by
  by_contra hge
  simp [assigned?, Array.getElem?_eq_none (Nat.le_of_not_lt hge)] at h

/-- The two sides of the assignment are inverse to each other, except that the
owner of `hole` has been given another item, and pairs are made of candidates. -/
structure Agrees (p : Pairing) (candidates : Nat → List Nat) (hole : Option Nat) : Prop where
  assigned_iff : ∀ e a, p.assigned? e = some a ↔ p.owner? a = some e ∧ hole ≠ some a
  candidate : ∀ e a, p.assigned? e = some a → a ∈ candidates e

theorem empty_agrees (candidates : Nat → List Nat) (expectedCount actualCount : Nat) :
    (empty expectedCount actualCount).Agrees candidates none := by
  have hassigned : ∀ e, (empty expectedCount actualCount).assigned? e = none := by
    intro e
    by_cases he : e < expectedCount <;> simp [assigned?, empty, he]
  have howner : ∀ a, (empty expectedCount actualCount).owner? a = none := by
    intro a
    by_cases ha : a < actualCount <;> simp [owner?, empty, ha]
  constructor
  · intro e a
    simp [hassigned, howner]
  · intro e a h
    simp [hassigned] at h

/-- Giving the hole to an item moves the hole to what the item had before. -/
theorem Agrees.pair {hole : Nat} (h : p.Agrees candidates (some hole))
    (hcandidate : hole ∈ candidates e) (he : e < p.assigned.size)
    (hhole : hole < p.owner.size) :
    (p.pair e hole).Agrees candidates (p.assigned? e) := by
  constructor
  · intro d b
    rw [assigned?_pair he, owner?_pair hhole]
    by_cases hb : b = hole
    · subst hb
      have hfree : ∀ d, p.assigned? d ≠ some b :=
        fun d hassigned => ((h.assigned_iff d b).1 hassigned).2 rfl
      by_cases hd : d = e
      · simp [hd, hfree]
      · simp [hd, hfree, Ne.symm hd]
    · have howned := h.assigned_iff d b
      simp only [ne_eq, Option.some.injEq, Ne.symm hb, not_false_eq_true, and_true] at howned
      by_cases hd : d = e
      · subst hd
        simpa [hb, Ne.symm hb] using howned.2
      · have hother : p.owner? b = some d → p.assigned? e ≠ some b := by
          intro howner hassigned
          have hsame := ((h.assigned_iff e b).1 hassigned).1
          rw [howner] at hsame
          exact hd (Option.some.inj hsame)
        simp only [hd, hb, if_false, howned]
        exact ⟨fun howner => ⟨howner, hother howner⟩, And.left⟩
  · intro d b hassigned
    rw [assigned?_pair he] at hassigned
    by_cases hd : d = e
    · subst hd
      simp only [if_true, Option.some.injEq] at hassigned
      exact hassigned ▸ hcandidate
    · simp only [hd, if_false] at hassigned
      exact h.candidate d b hassigned

end Pairing

/-- The stack of a search for `start` and the candidates its items wait for:
each candidate is assigned to the item above the one that waits for it. -/
inductive Linked (p : Pairing) (candidates : Nat → List Nat) (start : Nat) :
    List Frame → List Nat → Prop
  | start {frame : Frame} (hitem : frame.item = start) : Linked p candidates start [frame] []
  | above {frame next : Frame} {below : List Frame} {a : Nat} {via : List Nat}
      (hassigned : p.assigned? frame.item = some a) (hcandidate : a ∈ candidates next.item)
      (hbelow : Linked p candidates start (next :: below) via) :
      Linked p candidates start (frame :: next :: below) (a :: via)

namespace Linked

variable {p : Pairing} {candidates : Nat → List Nat} {start : Nat}
  {frame : Frame} {below stack : List Frame} {via : List Nat}

/-- Only the item of the topmost frame matters, not what it has left to try. -/
theorem replace_top (h : Linked p candidates start (frame :: below) via) {top : Frame}
    (hitem : top.item = frame.item) : Linked p candidates start (top :: below) via := by
  cases h with
  | start hstart => exact .start (hitem.trans hstart)
  | above hassigned hcandidate hbelow => exact .above (hitem ▸ hassigned) hcandidate hbelow

theorem tail (h : Linked p candidates start (frame :: below) via) (hne : below ≠ []) :
    Linked p candidates start below via.tail := by
  cases h with
  | start => exact absurd rfl hne
  | above _ _ hbelow => exact hbelow

/-- Every item on the stack is the one the search started with, or is assigned one
of the candidates that are waited for. -/
theorem item_cases (h : Linked p candidates start stack via) {frame : Frame}
    (hframe : frame ∈ stack) :
    frame.item = start ∨ ∃ a ∈ via, p.assigned? frame.item = some a := by
  induction h with
  | start hitem =>
      rw [List.mem_singleton] at hframe
      exact Or.inl (hframe ▸ hitem)
  | above hassigned _ _ ih =>
      rcases List.mem_cons.1 hframe with rfl | hframe
      · exact Or.inr ⟨_, List.mem_cons_self, hassigned⟩
      · rcases ih hframe with hstart | ⟨a, ha, hassigned⟩
        · exact Or.inl hstart
        · exact Or.inr ⟨a, List.mem_cons_of_mem _ ha, hassigned⟩

/-- No item is on the stack twice, since each is reached by a candidate of its own. -/
theorem item_ne_of_above {next : Frame} {a : Nat} (hstart : p.assigned? start = none)
    (hassigned : p.assigned? frame.item = some a) (hnew : a ∉ via)
    (hbelow : Linked p candidates start stack via) (hnext : next ∈ stack) :
    next.item ≠ frame.item := by
  intro hsame
  rcases hbelow.item_cases hnext with hitem | ⟨b, hb, hother⟩
  · rw [← hsame, hitem, hstart] at hassigned
    cases hassigned
  · rw [hsame, hassigned] at hother
    exact hnew (Option.some.inj hother ▸ hb)

/-- A pair made for an item that is not on the stack does not touch its links. -/
theorem pair {e a : Nat} (h : Linked p candidates start stack via)
    (he : e < p.assigned.size) (hother : ∀ frame ∈ stack, frame.item ≠ e) :
    Linked (p.pair e a) candidates start stack via := by
  induction h with
  | start hitem => exact .start hitem
  | above hassigned hcandidate _ ih =>
      refine .above ?_ hcandidate (ih fun frame hframe => hother frame ?_)
      · rw [Pairing.assigned?_pair he, if_neg (hother _ List.mem_cons_self)]
        exact hassigned
      · exact List.mem_cons_of_mem _ hframe

end Linked

/-- An assignment in which one more expected item has got a place, and in which
those that had one have kept one. -/
structure Extends (p q : Pairing) (start : Nat) : Prop where
  owner_size : q.owner.size = p.owner.size
  assigned_size : q.assigned.size = p.assigned.size
  isSome_iff : ∀ e, (q.assigned? e).isSome ↔ e = start ∨ (p.assigned? e).isSome

theorem extends_pair {p : Pairing} {e a : Nat} (he : e < p.assigned.size) :
    Extends p (p.pair e a) e := by
  refine ⟨p.owner_size_pair e a, p.assigned_size_pair e a, ?_⟩
  intro d
  rw [Pairing.assigned?_pair he]
  by_cases hd : d = e <;> simp [hd]

/-- Giving the free item to the top of the stack and passing on what each item had
to the one below it ends in an assignment without a hole. -/
theorem flip_agrees {candidates : Nat → List Nat} {start : Nat} (via : List Nat) :
    ∀ {p : Pairing} {free : Nat} {frame : Frame} {below : List Frame},
      p.Agrees candidates (some free) → p.assigned? start = none →
      start < p.assigned.size → free < p.owner.size → free ∈ candidates frame.item →
      via.Nodup → Linked p candidates start (frame :: below) via →
      (p.flip free (frame :: below) via).Agrees candidates none ∧
        Extends p (p.flip free (frame :: below) via) start := by
  induction via with
  | nil =>
      intro p free frame below hp hnone hstart hfree hcandidate _ hlinked
      cases hlinked with
      | start hitem =>
          rw [← hitem] at hnone hstart ⊢
          have hagrees := hp.pair hcandidate hstart hfree
          rw [hnone] at hagrees
          exact ⟨hagrees, extends_pair hstart⟩
  | cons a via ih =>
      intro p free frame below hp hnone hstart hfree hcandidate hnodup hlinked
      cases hlinked with
      | above hassigned hwaiting hbelow =>
          rename_i next below
          have hitem := Pairing.lt_assigned_size hassigned
          have hnew := List.nodup_cons.1 hnodup
          have hne : start ≠ frame.item := by
            intro hsame
            rw [← hsame, hnone] at hassigned
            cases hassigned
          have hagrees := hp.pair hcandidate hitem hfree
          rw [hassigned] at hagrees
          have hlinked' := hbelow.pair (a := free) hitem
            fun _ => Linked.item_ne_of_above hnone hassigned hnew.1 hbelow
          have ha : a < p.owner.size :=
            Pairing.lt_owner_size ((hp.assigned_iff _ _).1 hassigned).1
          obtain ⟨hflipped, hextends⟩ := ih hagrees
            (by rw [Pairing.assigned?_pair hitem, if_neg hne]; exact hnone)
            (by rwa [Pairing.assigned_size_pair]) (by rwa [Pairing.owner_size_pair])
            hwaiting hnew.2 hlinked'
          refine ⟨hflipped, ?_, ?_, ?_⟩
          · exact hextends.owner_size.trans (p.owner_size_pair _ _)
          · exact hextends.assigned_size.trans (p.assigned_size_pair _ _)
          · intro d
            have hd := hextends.isSome_iff d
            rw [Pairing.assigned?_pair hitem] at hd
            rw [Pairing.flip, hd]
            by_cases hsame : d = frame.item <;> simp [hsame, hassigned]

namespace Search

variable {p : Pairing} {candidates : Nat → List Nat} {start : Nat} {s t : Search}

/-- All that one step of a search can do when it goes on. -/
theorem step_next_cases (h : s.step p candidates = .next t) :
    (∃ item below, s.stack = ⟨item, []⟩ :: below ∧ t = ⟨s.unmet, below, s.via.tail⟩) ∨
    (∃ item a untried below, s.stack = ⟨item, a :: untried⟩ :: below ∧
      isUnmet s.unmet a = false ∧ t = ⟨s.unmet, ⟨item, untried⟩ :: below, s.via⟩) ∨
    (∃ item a untried below next, s.stack = ⟨item, a :: untried⟩ :: below ∧
      isUnmet s.unmet a = true ∧ p.owner? a = some next ∧
      t = ⟨meet s.unmet a, ⟨next, candidates next⟩ :: ⟨item, untried⟩ :: below, a :: s.via⟩) := by
  obtain ⟨unmet, stack, via⟩ := s
  unfold Search.step at h
  match stack, h with
  | ⟨item, []⟩ :: below, h =>
      cases h
      exact Or.inl ⟨item, below, rfl, rfl⟩
  | ⟨item, a :: untried⟩ :: below, h =>
      by_cases ha : isUnmet unmet a = true
      · simp only [ha, if_true] at h
        split at h
        · cases h
        · rename_i next howner
          cases h
          exact Or.inr (Or.inr ⟨item, a, untried, below, next, rfl, ha, howner, rfl⟩)
      · simp only [ha] at h
        cases h
        exact Or.inr (Or.inl ⟨item, a, untried, below, rfl, by simpa using ha, rfl⟩)

/-- A step finds a candidate of the topmost item that nobody owns. -/
theorem step_found_cases {free : Nat} (h : s.step p candidates = .found t free) :
    ∃ item untried below, s.stack = ⟨item, free :: untried⟩ :: below ∧
      isUnmet s.unmet free = true ∧ p.owner? free = none ∧
      t = ⟨meet s.unmet free, ⟨item, untried⟩ :: below, s.via⟩ := by
  obtain ⟨unmet, stack, via⟩ := s
  unfold Search.step at h
  match stack, h with
  | ⟨item, []⟩ :: below, h => cases h
  | ⟨item, a :: untried⟩ :: below, h =>
      by_cases ha : isUnmet unmet a = true
      · simp only [ha, if_true] at h
        split at h
        · rename_i howner
          cases h
          exact ⟨item, untried, below, rfl, ha, howner, rfl⟩
        · cases h
      · simp only [ha] at h
        cases h

/-- A step fails only when nothing is left on the stack. -/
theorem stack_eq_nil_of_step_failed (h : s.step p candidates = .failed) : s.stack = [] := by
  obtain ⟨unmet, stack, via⟩ := s
  unfold Search.step at h
  match stack, h with
  | [], _ => rfl
  | ⟨item, a :: untried⟩ :: below, h =>
      by_cases ha : isUnmet unmet a = true
      · simp only [ha, if_true] at h
        split at h <;> cases h
      · simp only [ha] at h
        cases h

/-- The items a search has come to: the first one, and the owners of what it met. -/
def Reached (p : Pairing) (unmet : Array Bool) (start e : Nat) : Prop :=
  e = start ∨ ∃ a, isUnmet unmet a = false ∧ p.owner? a = some e

theorem reached_meet {unmet : Array Bool} {a e : Nat} (h : Reached p (meet unmet a) start e) :
    Reached p unmet start e ∨ p.owner? a = some e := by
  rcases h with hstart | ⟨b, hb, howner⟩
  · exact Or.inl (Or.inl hstart)
  · rw [isUnmet_meet] at hb
    by_cases hab : b = a
    · exact Or.inr (hab ▸ howner)
    · exact Or.inl (Or.inr ⟨b, by simpa [hab] using hb, howner⟩)

/-- What holds at every point of a search that looks for a place for `start`. -/
structure Inv (p : Pairing) (candidates : Nat → List Nat) (start : Nat) (s : Search) : Prop where
  size : s.unmet.size = p.owner.size
  /-- Each item waits for a candidate of its own that the item above it is assigned. -/
  linked : s.stack ≠ [] → Linked p candidates start s.stack s.via
  untried : ∀ frame ∈ s.stack, ∀ a ∈ frame.untried, a ∈ candidates frame.item
  /-- No candidate is met twice. -/
  via_nodup : s.via.Nodup
  via_met : ∀ a ∈ s.via, isUnmet s.unmet a = false
  /-- Whatever has been met is owned: a free candidate ends the search. -/
  owned : ∀ a < p.owner.size, isUnmet s.unmet a = false → ∃ e, p.owner? a = some e
  /-- What an item has not met, it still has to try. -/
  explored : ∀ e, Reached p s.unmet start e → ∀ a ∈ candidates e, isUnmet s.unmet a = true →
    ∃ frame ∈ s.stack, frame.item = e ∧ a ∈ frame.untried

theorem isUnmet_replicate (n a : Nat) :
    isUnmet (Array.replicate n true) a = decide (a < n) := by
  by_cases h : a < n <;> simp [isUnmet, h]

theorem inv_init (p : Pairing) (candidates : Nat → List Nat) (start : Nat) :
    Inv p candidates start
      ⟨Array.replicate p.owner.size true, [⟨start, candidates start⟩], []⟩ where
  size := by simp
  linked _ := .start rfl
  untried := by simp
  via_nodup := List.nodup_nil
  via_met := by simp
  owned := by
    intro a ha hmet
    simp [isUnmet_replicate, ha] at hmet
  explored := by
    intro e hreached a ha _
    rcases hreached with rfl | ⟨b, hb, howner⟩
    · exact ⟨_, List.mem_singleton_self _, rfl, ha⟩
    · simp [isUnmet_replicate, Pairing.lt_owner_size howner] at hb

theorem Inv.linked_of_stack {frame : Frame} {below : List Frame}
    (h : Inv p candidates start s) (hstack : s.stack = frame :: below) :
    Linked p candidates start (frame :: below) s.via := by
  rw [← hstack]
  exact h.linked (by simp [hstack])

/-- An item that has nothing left to try is dropped. -/
theorem Inv.drop {item : Nat} {below : List Frame} (h : Inv p candidates start s)
    (hstack : s.stack = ⟨item, []⟩ :: below) :
    Inv p candidates start ⟨s.unmet, below, s.via.tail⟩ where
  size := h.size
  linked := (h.linked_of_stack hstack).tail
  untried frame hframe := h.untried frame (by simp [hstack, hframe])
  via_nodup := h.via_nodup.tail
  via_met a ha := h.via_met a (List.mem_of_mem_tail ha)
  owned := h.owned
  explored := by
    intro e hreached b hb hunmet
    obtain ⟨frame, hframe, hitem, hmem⟩ := h.explored e hreached b hb hunmet
    rw [hstack, List.mem_cons] at hframe
    rcases hframe with rfl | hframe
    · cases hmem
    · exact ⟨frame, hframe, hitem, hmem⟩

/-- A candidate that has been met before, or that does not exist, is passed over. -/
theorem Inv.skip {item a : Nat} {untried : List Nat} {below : List Frame}
    (h : Inv p candidates start s) (hstack : s.stack = ⟨item, a :: untried⟩ :: below)
    (ha : isUnmet s.unmet a = false) :
    Inv p candidates start ⟨s.unmet, ⟨item, untried⟩ :: below, s.via⟩ where
  size := h.size
  linked _ := (h.linked_of_stack hstack).replace_top rfl
  untried := by
    intro frame hframe b hb
    rcases List.mem_cons.1 hframe with rfl | hframe
    · exact h.untried ⟨item, a :: untried⟩ (by simp [hstack]) b (List.mem_cons_of_mem _ hb)
    · exact h.untried frame (by simp [hstack, hframe]) b hb
  via_nodup := h.via_nodup
  via_met := h.via_met
  owned := h.owned
  explored := by
    intro e hreached b hb hunmet
    obtain ⟨frame, hframe, hitem, hmem⟩ := h.explored e hreached b hb hunmet
    rw [hstack, List.mem_cons] at hframe
    rcases hframe with rfl | hframe
    · refine ⟨_, List.mem_cons_self, hitem, (List.mem_cons.1 hmem).resolve_left ?_⟩
      rintro rfl
      rw [ha] at hunmet
      cases hunmet
    · exact ⟨frame, List.mem_cons_of_mem _ hframe, hitem, hmem⟩

/-- The owner of a candidate is put on top of the item that waits for it. -/
theorem Inv.push {item a next : Nat} {untried : List Nat} {below : List Frame}
    (h : Inv p candidates start s) (hagrees : p.Agrees candidates none)
    (hstack : s.stack = ⟨item, a :: untried⟩ :: below) (ha : isUnmet s.unmet a = true)
    (howner : p.owner? a = some next) :
    Inv p candidates start
      ⟨meet s.unmet a, ⟨next, candidates next⟩ :: ⟨item, untried⟩ :: below, a :: s.via⟩ where
  size := by simpa [meet] using h.size
  linked _ := by
    have hassigned : p.assigned? next = some a :=
      (hagrees.assigned_iff next a).2 ⟨howner, by simp⟩
    have hcandidate : a ∈ candidates item :=
      h.untried ⟨item, a :: untried⟩ (by simp [hstack]) a List.mem_cons_self
    exact .above hassigned hcandidate ((h.linked_of_stack hstack).replace_top rfl)
  untried := by
    intro frame hframe b hb
    rcases List.mem_cons.1 hframe with rfl | hframe
    · exact hb
    · rcases List.mem_cons.1 hframe with rfl | hframe
      · exact h.untried ⟨item, a :: untried⟩ (by simp [hstack]) b (List.mem_cons_of_mem _ hb)
      · exact h.untried frame (by simp [hstack, hframe]) b hb
  via_nodup := by
    refine List.nodup_cons.2 ⟨fun hmem => ?_, h.via_nodup⟩
    rw [h.via_met a hmem] at ha
    cases ha
  via_met := by
    intro b hb
    rw [isUnmet_meet]
    rcases List.mem_cons.1 hb with rfl | hb
    · simp
    · simp [h.via_met b hb]
  owned := by
    intro b hb hmet
    rw [isUnmet_meet] at hmet
    by_cases hab : b = a
    · exact ⟨next, hab ▸ howner⟩
    · exact h.owned b hb (by simpa [hab] using hmet)
  explored := by
    intro e hreached b hb hunmet
    rw [isUnmet_meet, Bool.and_eq_true, bne_iff_ne] at hunmet
    rcases reached_meet hreached with hreached | hnext
    · obtain ⟨frame, hframe, hitem, hmem⟩ := h.explored e hreached b hb hunmet.1
      rw [hstack, List.mem_cons] at hframe
      rcases hframe with rfl | hframe
      · exact ⟨⟨item, untried⟩, by simp, hitem, (List.mem_cons.1 hmem).resolve_left hunmet.2⟩
      · exact ⟨frame, by simp [hframe], hitem, hmem⟩
    · rw [howner] at hnext
      cases hnext
      exact ⟨_, List.mem_cons_self, rfl, hb⟩

/-- One step keeps the invariant. -/
theorem Inv.step (h : Inv p candidates start s) (hagrees : p.Agrees candidates none)
    (hstep : s.step p candidates = .next t) : Inv p candidates start t := by
  rcases step_next_cases hstep with ⟨item, below, hstack, rfl⟩ |
    ⟨item, a, untried, below, hstack, ha, rfl⟩ |
    ⟨item, a, untried, below, next, hstack, ha, howner, rfl⟩
  · exact h.drop hstack
  · exact h.skip hstack ha
  · exact h.push hagrees hstack ha howner

/-- What a search hands over when it has found a free candidate of its topmost item. -/
structure Found (p : Pairing) (candidates : Nat → List Nat) (start : Nat) (t : Search)
    (free : Nat) : Prop where
  linked : Linked p candidates start t.stack t.via
  via_nodup : t.via.Nodup
  candidate : ∃ frame below, t.stack = frame :: below ∧ free ∈ candidates frame.item
  unowned : p.owner? free = none
  lt_size : free < p.owner.size

theorem lt_size_of_isUnmet {unmet : Array Bool} {a : Nat} (h : isUnmet unmet a = true) :
    a < unmet.size := by
  by_contra hge
  simp [isUnmet, Array.getElem?_eq_none (Nat.le_of_not_lt hge)] at h

theorem Inv.found {free : Nat} (h : Inv p candidates start s)
    (hstep : s.step p candidates = .found t free) : Found p candidates start t free := by
  obtain ⟨item, untried, below, hstack, hunmet, howner, rfl⟩ := step_found_cases hstep
  refine ⟨(h.linked_of_stack hstack).replace_top rfl, h.via_nodup, ⟨_, below, rfl, ?_⟩, howner, ?_⟩
  · exact h.untried ⟨item, free :: untried⟩ (by simp [hstack]) free List.mem_cons_self
  · exact h.size ▸ lt_size_of_isUnmet hunmet

/-- Owned actual items that the candidates of `start` and of their owners do not leave. -/
structure Enclosed (p : Pairing) (candidates : Nat → List Nat) (start : Nat)
    (met : Finset Nat) : Prop where
  owned : ∀ a ∈ met, ∃ e, p.owner? a = some e
  start_mem : ∀ a ∈ candidates start, a < p.owner.size → a ∈ met
  owner_mem : ∀ a ∈ met, ∀ e, p.owner? a = some e →
    ∀ b ∈ candidates e, b < p.owner.size → b ∈ met

/-- A search with nothing left on its stack has met an enclosed set. -/
theorem Inv.enclosed (h : Inv p candidates start s) (hstack : s.stack = []) :
    Enclosed p candidates start
      ((Finset.range p.owner.size).filter fun a => isUnmet s.unmet a = false) := by
  have hmet : ∀ e, Reached p s.unmet start e → ∀ a ∈ candidates e,
      isUnmet s.unmet a = false := by
    intro e hreached a ha
    by_contra hunmet
    obtain ⟨frame, hframe, -⟩ := h.explored e hreached a ha (by simpa using hunmet)
    simp [hstack] at hframe
  refine ⟨?_, ?_, ?_⟩ <;> simp only [Finset.mem_filter, Finset.mem_range]
  · exact fun a ha => h.owned a ha.1 ha.2
  · exact fun a ha hlt => ⟨hlt, hmet start (Or.inl rfl) a ha⟩
  · exact fun a ha e howner b hb hlt => ⟨hlt, hmet e (Or.inr ⟨a, ha.2, howner⟩) b hb⟩

/-- A whole search finds a free candidate or meets an enclosed set. -/
theorem Inv.run (h : Inv p candidates start s) (hagrees : p.Agrees candidates none) :
    (∃ t free, s.run p candidates = some (t, free) ∧ Found p candidates start t free) ∨
    (s.run p candidates = none ∧ ∃ met, Enclosed p candidates start met) := by
  fun_induction Search.run p candidates s with
  | case1 s t hstep ih => exact ih (h.step hagrees hstep)
  | case2 s t free hstep => exact Or.inl ⟨t, free, rfl, h.found hstep⟩
  | case3 s hstep => exact Or.inr ⟨rfl, _, h.enclosed (stack_eq_nil_of_step_failed hstep)⟩

/-- Moving the items on the stack of a search that has found a free candidate gives a place to the
item it started with. -/
theorem Found.flip {free : Nat} (h : Found p candidates start t free)
    (hagrees : p.Agrees candidates none) (hnone : p.assigned? start = none)
    (hstart : start < p.assigned.size) :
    (p.flip free t.stack t.via).Agrees candidates none ∧
      Extends p (p.flip free t.stack t.via) start := by
  obtain ⟨frame, below, hstack, hcandidate⟩ := h.candidate
  have hlinked := h.linked
  have hfree : p.Agrees candidates (some free) := by
    refine ⟨fun e a => ?_, hagrees.candidate⟩
    rw [hagrees.assigned_iff]
    refine and_congr_right fun howner => ⟨fun _ heq => ?_, fun _ => by simp⟩
    rw [← Option.some.inj heq, h.unowned] at howner
    cases howner
  rw [hstack] at hlinked ⊢
  exact flip_agrees t.via hfree hnone hstart h.lt_size hcandidate h.via_nodup hlinked

end Search

/-- Looking for a place for one more item either gives it one, or leaves the
assignment as it was and meets an enclosed set. -/
theorem augment_cases {p : Pairing} {candidates : Nat → List Nat} {start : Nat}
    (hagrees : p.Agrees candidates none) (hnone : p.assigned? start = none)
    (hstart : start < p.assigned.size) :
    ((augment candidates p.owner.size p start).Agrees candidates none ∧
      Extends p (augment candidates p.owner.size p start) start) ∨
    (augment candidates p.owner.size p start = p ∧
      ∃ met, Search.Enclosed p candidates start met) := by
  rcases (Search.inv_init p candidates start).run hagrees with
    ⟨t, free, hrun, hfound⟩ | ⟨hrun, met, hmet⟩
  · left
    have haugment : augment candidates p.owner.size p start = p.flip free t.stack t.via := by
      simp only [augment, hrun]
    rw [haugment]
    exact hfound.flip hagrees hnone hstart
  · right
    exact ⟨by simp only [augment, hrun], met, hmet⟩

end DocMatch.Assignment
