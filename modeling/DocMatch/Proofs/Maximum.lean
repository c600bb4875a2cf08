import DocMatch.Proofs.Search
import Mathlib.Data.Finset.Image
import Mathlib.Data.Finset.Prod
import Mathlib.Data.Fintype.Card
import Mathlib.Order.Bounds.Basic
/-!
Assignments are as large as they can be.  A search that fails has met a set of
actual items, all of them owned, that takes up every candidate of the items it
came to; so another assignment of the same expected items cannot be larger than
the present one.
-/

namespace DocMatch.Assignment

variable {α β : Type}

/-- A set of pairs that fit, with no item in two of them. -/
structure IsMatching (fits : α → β → Prop) (pairs : Finset (α × β)) : Prop where
  fits : ∀ q ∈ pairs, fits q.1 q.2
  fst_inj : ∀ q ∈ pairs, ∀ r ∈ pairs, q.1 = r.1 → q = r
  snd_inj : ∀ q ∈ pairs, ∀ r ∈ pairs, q.2 = r.2 → q = r

/-- How many pairs can be made at once. -/
def MatchingSizes (fits : α → β → Prop) : Set Nat :=
  { n | ∃ pairs, IsMatching fits pairs ∧ pairs.card = n }

/-- Whether an actual item exists and is a candidate of one of the first expected items. -/
def Admits (candidates : Nat → List Nat) (count actualCount e a : Nat) : Prop :=
  e < count ∧ a < actualCount ∧ a ∈ candidates e

namespace Pairing

variable {p : Pairing} {candidates : Nat → List Nat}

/-- The expected items that have a place. -/
def placed (p : Pairing) : Finset Nat :=
  (Finset.range p.assigned.size).filter fun e => (p.assigned? e).isSome

/-- The pairs of the assignment. -/
def pairs (p : Pairing) : Finset (Nat × Nat) :=
  (Finset.range p.assigned.size ×ˢ Finset.range p.owner.size).filter fun q =>
    p.assigned? q.1 = some q.2

theorem mem_placed {e : Nat} : e ∈ p.placed ↔ (p.assigned? e).isSome := by
  simp only [placed, Finset.mem_filter, Finset.mem_range, and_iff_right_iff_imp]
  intro h
  obtain ⟨a, ha⟩ := Option.isSome_iff_exists.1 h
  exact lt_assigned_size ha

theorem Agrees.mem_pairs (h : p.Agrees candidates none) {q : Nat × Nat} :
    q ∈ p.pairs ↔ p.assigned? q.1 = some q.2 := by
  simp only [pairs, Finset.mem_filter, Finset.mem_product, Finset.mem_range,
    and_iff_right_iff_imp]
  intro hassigned
  exact ⟨lt_assigned_size hassigned, lt_owner_size ((h.assigned_iff _ _).1 hassigned).1⟩

theorem Agrees.isMatching (h : p.Agrees candidates none) {count : Nat}
    (hcount : ∀ e ∈ p.placed, e < count) :
    IsMatching (Admits candidates count p.owner.size) p.pairs where
  fits := by
    intro q hq
    rw [h.mem_pairs] at hq
    exact ⟨hcount q.1 (mem_placed.2 (by simp [hq])),
      lt_owner_size ((h.assigned_iff _ _).1 hq).1, h.candidate _ _ hq⟩
  fst_inj := by
    intro q hq r hr hfst
    rw [h.mem_pairs] at hq hr
    rw [hfst, hr] at hq
    exact Prod.ext hfst (Option.some.inj hq).symm
  snd_inj := by
    intro q hq r hr hsnd
    rw [h.mem_pairs] at hq hr
    have hqowner := ((h.assigned_iff _ _).1 hq).1
    have hrowner := ((h.assigned_iff _ _).1 hr).1
    rw [hsnd, hrowner] at hqowner
    exact Prod.ext (Option.some.inj hqowner).symm hsnd

theorem Agrees.card_pairs (h : p.Agrees candidates none) : p.pairs.card = p.placed.card := by
  have himage : p.pairs.image Prod.fst = p.placed := by
    ext e
    simp only [Finset.mem_image, h.mem_pairs, mem_placed, Option.isSome_iff_exists]
    constructor
    · rintro ⟨q, hq, rfl⟩
      exact ⟨q.2, hq⟩
    · rintro ⟨a, ha⟩
      exact ⟨(e, a), ha, rfl⟩
  rw [← himage, Finset.card_image_of_injOn]
  have hrange : ∀ e ∈ p.placed, e < p.assigned.size := fun e he =>
    Finset.mem_range.1 (Finset.filter_subset _ _ he)
  intro q hq r hr
  exact (h.isMatching hrange).fst_inj q hq r hr

theorem placed_of_extends {q : Pairing} {start : Nat} (h : Extends p q start) :
    q.placed = insert start p.placed := by
  ext e
  rw [mem_placed, h.isSome_iff, Finset.mem_insert, mem_placed]

end Pairing

section Optimality

variable {candidates : Nat → List Nat} {p : Pairing} {k actualCount : Nat}
  {other : Finset (Nat × Nat)}

theorem IsMatching.mono {fits fits' : α → β → Prop} {pairs subset : Finset (α × β)}
    (h : IsMatching fits pairs) (hsubset : subset ⊆ pairs)
    (hfits : ∀ q ∈ subset, fits q.1 q.2 → fits' q.1 q.2) : IsMatching fits' subset where
  fits q hq := hfits q hq (h.fits q (hsubset hq))
  fst_inj q hq r hr := h.fst_inj q (hsubset hq) r (hsubset hr)
  snd_inj q hq r hr := h.snd_inj q (hsubset hq) r (hsubset hr)

/-- One more expected item allows at most one more pair. -/
theorem card_le_add_one {bound : Nat}
    (hmax : ∀ pairs, IsMatching (Admits candidates k actualCount) pairs → pairs.card ≤ bound)
    (hother : IsMatching (Admits candidates (k + 1) actualCount) other) :
    other.card ≤ bound + 1 := by
  have hrest : (other.filter fun q => q.1 ≠ k).card ≤ bound := by
    refine hmax _ (hother.mono (Finset.filter_subset _ _) ?_)
    rintro q hq ⟨hlt, ha, hcandidate⟩
    have hne := (Finset.mem_filter.1 hq).2
    exact ⟨by omega, ha, hcandidate⟩
  have hlast : (other.filter fun q => ¬ q.1 ≠ k).card ≤ 1 := by
    rw [Finset.card_le_one]
    intro q hq r hr
    simp only [ne_eq, not_not, Finset.mem_filter] at hq hr
    exact hother.fst_inj q hq.1 r hr.1 (hq.2.trans hr.2.symm)
  have hsplit := Finset.card_filter_add_card_filter_not (s := other) fun q => q.1 ≠ k
  omega

/-- Matchings that share no item on either side can be joined. -/
theorem IsMatching.union [DecidableEq α] [DecidableEq β] {fits : α → β → Prop}
    {left right : Finset (α × β)} (hleft : IsMatching fits left) (hright : IsMatching fits right)
    (hfst : ∀ q ∈ left, ∀ r ∈ right, q.1 ≠ r.1) (hsnd : ∀ q ∈ left, ∀ r ∈ right, q.2 ≠ r.2) :
    IsMatching fits (left ∪ right) where
  fits := by
    intro q hq
    rcases Finset.mem_union.1 hq with hq | hq
    · exact hleft.fits q hq
    · exact hright.fits q hq
  fst_inj := by
    intro q hq r hr hsame
    rcases Finset.mem_union.1 hq with hq | hq <;> rcases Finset.mem_union.1 hr with hr | hr
    · exact hleft.fst_inj q hq r hr hsame
    · exact absurd hsame (hfst q hq r hr)
    · exact absurd hsame.symm (hfst r hr q hq)
    · exact hright.fst_inj q hq r hr hsame
  snd_inj := by
    intro q hq r hr hsame
    rcases Finset.mem_union.1 hq with hq | hq <;> rcases Finset.mem_union.1 hr with hr | hr
    · exact hleft.snd_inj q hq r hr hsame
    · exact absurd hsame (hsnd q hq r hr)
    · exact absurd hsame.symm (hsnd r hr q hq)
    · exact hright.snd_inj q hq r hr hsame

theorem IsMatching.card_filter_le [DecidableEq β] {fits : α → β → Prop} {pairs : Finset (α × β)}
    (h : IsMatching fits pairs) (places : Finset β) :
    (pairs.filter fun q => q.2 ∈ places).card ≤ places.card := by
  refine Finset.card_le_card_of_injOn Prod.snd (fun q hq => (Finset.mem_filter.1 hq).2) ?_
  intro q hq r hr
  exact h.snd_inj q (Finset.mem_filter.1 hq).1 r (Finset.mem_filter.1 hr).1

/-- Every place of an enclosed set is in a pair of its own. -/
theorem card_met_le_card_filter {met : Finset Nat} (hagrees : p.Agrees candidates none)
    (hmet : Search.Enclosed p candidates k met) :
    met.card ≤ (p.pairs.filter fun q => q.2 ∈ met).card := by
  have himage : met ⊆ (p.pairs.filter fun q => q.2 ∈ met).image Prod.snd := by
    intro a ha
    obtain ⟨e, howner⟩ := hmet.owned a ha
    have hpair : (e, a) ∈ p.pairs :=
      hagrees.mem_pairs.2 ((hagrees.assigned_iff e a).2 ⟨howner, by simp⟩)
    exact Finset.mem_image.2 ⟨(e, a), Finset.mem_filter.2 ⟨hpair, ha⟩, rfl⟩
  exact (Finset.card_le_card himage).trans Finset.card_image_le

/-- If the search for a place for `k` has met an enclosed set, then the pairs of
another assignment outside that set can be joined with the present pairs inside it,
and `k` has no part in either. -/
theorem card_le_of_enclosed {met : Finset Nat} (hagrees : p.Agrees candidates none)
    (hplaced : ∀ e ∈ p.placed, e < k)
    (hmax : ∀ pairs, IsMatching (Admits candidates k p.owner.size) pairs →
      pairs.card ≤ p.pairs.card)
    (hmet : Search.Enclosed p candidates k met)
    (hother : IsMatching (Admits candidates (k + 1) p.owner.size) other) :
    other.card ≤ p.pairs.card := by
  let inside := p.pairs.filter fun q => q.2 ∈ met
  let outside := other.filter fun q => q.2 ∉ met
  have hinside : ∀ q ∈ inside, q ∈ p.pairs ∧ q.2 ∈ met := fun q hq => Finset.mem_filter.1 hq
  have houtside : ∀ q ∈ outside, q ∈ other ∧ q.2 ∉ met := fun q hq => Finset.mem_filter.1 hq
  -- an item that met candidates only has no pair outside
  have hfst : ∀ q ∈ inside, ∀ r ∈ outside, q.1 ≠ r.1 := by
    intro q hq r hr hsame
    obtain ⟨hqmem, hqmet⟩ := hinside q hq
    obtain ⟨hrmem, hrmet⟩ := houtside r hr
    obtain ⟨-, hlt, hcandidate⟩ := hother.fits r hrmem
    have howner := ((hagrees.assigned_iff _ _).1 (hagrees.mem_pairs.1 hqmem)).1
    rw [hsame] at howner
    exact hrmet (hmet.owner_mem q.2 hqmet r.1 howner r.2 hcandidate hlt)
  have hsnd : ∀ q ∈ inside, ∀ r ∈ outside, q.2 ≠ r.2 := by
    intro q hq r hr hsame
    exact (houtside r hr).2 (hsame ▸ (hinside q hq).2)
  have hpresent : IsMatching (Admits candidates k p.owner.size) inside :=
    (hagrees.isMatching hplaced).mono (Finset.filter_subset _ _) fun _ _ hfits => hfits
  have hrest : IsMatching (Admits candidates k p.owner.size) outside := by
    refine hother.mono (Finset.filter_subset _ _) ?_
    rintro q hq ⟨hlt, ha, hcandidate⟩
    have hne : q.1 ≠ k := by
      intro hitem
      exact (houtside q hq).2 (hmet.start_mem q.2 (hitem ▸ hcandidate) ha)
    exact ⟨by omega, ha, hcandidate⟩
  have hdisjoint : Disjoint inside outside := by
    rw [Finset.disjoint_left]
    exact fun q hq hq' => hsnd q hq q hq' rfl
  -- every met item is owned, so no assignment has more pairs inside
  have hcard : (other.filter fun q => q.2 ∈ met).card ≤ inside.card :=
    (hother.card_filter_le met).trans (card_met_le_card_filter hagrees hmet)
  have hsplit := Finset.card_filter_add_card_filter_not (s := other) fun q => q.2 ∈ met
  calc
    other.card = (other.filter fun q => q.2 ∈ met).card + outside.card := hsplit.symm
    _ ≤ inside.card + outside.card := Nat.add_le_add_right hcard _
    _ = (inside ∪ outside).card := (Finset.card_union_of_disjoint hdisjoint).symm
    _ ≤ p.pairs.card := hmax _ (hpresent.union hrest hfst hsnd)

/-- An assignment of the first `k` expected items that no other one exceeds. -/
structure Optimal (candidates : Nat → List Nat) (count actualCount k : Nat) (p : Pairing) :
    Prop where
  owner_size : p.owner.size = actualCount
  assigned_size : p.assigned.size = count
  agrees : p.Agrees candidates none
  placed_lt : ∀ e ∈ p.placed, e < k
  greatest : ∀ pairs, IsMatching (Admits candidates k actualCount) pairs →
    pairs.card ≤ p.pairs.card

theorem optimal_empty (candidates : Nat → List Nat) (count actualCount : Nat) :
    Optimal candidates count actualCount 0 (.empty count actualCount) where
  owner_size := by simp [Pairing.empty]
  assigned_size := by simp [Pairing.empty]
  agrees := Pairing.empty_agrees candidates count actualCount
  placed_lt := by
    intro e he
    rw [Pairing.mem_placed] at he
    by_cases hlt : e < count <;> simp [Pairing.assigned?, Pairing.empty, hlt] at he
  greatest := by
    intro pairs hpairs
    have hempty : pairs = ∅ := by
      apply Finset.eq_empty_of_forall_notMem
      intro q hq
      exact Nat.not_lt_zero _ (hpairs.fits q hq).1
    simp [hempty]

theorem Optimal.not_mem_placed {count : Nat} (h : Optimal candidates count actualCount k p) :
    k ∉ p.placed := fun hmem => Nat.lt_irrefl k (h.placed_lt k hmem)

theorem Optimal.assigned?_eq_none {count : Nat} (h : Optimal candidates count actualCount k p) :
    p.assigned? k = none := by
  simpa [Pairing.mem_placed] using h.not_mem_placed

/-- A round places its item and keeps all that have a place, or it meets an enclosed set and
changes nothing. -/
theorem Optimal.augment_cases {count : Nat} (h : Optimal candidates count actualCount k p)
    (hk : k < count) :
    ((augment candidates actualCount p k).Agrees candidates none ∧
      Extends p (augment candidates actualCount p k) k) ∨
    (augment candidates actualCount p k = p ∧ ∃ met, Search.Enclosed p candidates k met) := by
  rw [← h.owner_size]
  exact Assignment.augment_cases h.agrees h.assigned?_eq_none (h.assigned_size ▸ hk)

theorem Optimal.augment {count : Nat} (h : Optimal candidates count actualCount k p)
    (hk : k < count) :
    Optimal candidates count actualCount (k + 1) (augment candidates actualCount p k) := by
  have hmax := h.greatest
  rcases h.augment_cases hk with ⟨hagrees, hextends⟩ | ⟨hsame, met, hmet⟩
  · have hplaced := Pairing.placed_of_extends hextends
    refine ⟨hextends.owner_size.trans h.owner_size,
      hextends.assigned_size.trans h.assigned_size, hagrees, ?_, ?_⟩
    · intro e he
      rw [hplaced, Finset.mem_insert] at he
      rcases he with rfl | he
      · exact Nat.lt_succ_self _
      · exact Nat.lt_succ_of_lt (h.placed_lt e he)
    · intro pairs hpairs
      rw [hagrees.card_pairs, hplaced, Finset.card_insert_of_notMem h.not_mem_placed,
        ← h.agrees.card_pairs]
      exact card_le_add_one hmax hpairs
  · obtain rfl := h.owner_size
    rw [hsame]
    refine ⟨rfl, h.assigned_size, h.agrees, ?_, ?_⟩
    · exact fun e he => Nat.lt_succ_of_lt (h.placed_lt e he)
    · exact fun pairs => card_le_of_enclosed h.agrees h.placed_lt hmax hmet

theorem Optimal.isGreatest {count : Nat} (h : Optimal candidates count actualCount k p) :
    IsGreatest (MatchingSizes (Admits candidates k actualCount)) p.placed.card := by
  rw [← h.agrees.card_pairs]
  constructor
  · refine ⟨_, ?_, rfl⟩
    have hmatching := h.agrees.isMatching h.placed_lt
    rwa [h.owner_size] at hmatching
  · rintro n ⟨pairs, hpairs, rfl⟩
    exact h.greatest pairs hpairs

/-- The assignment after the first `k` rounds. -/
def rounds (candidates : Nat → List Nat) (count actualCount k : Nat) : Pairing :=
  (List.range k).foldl (Assignment.augment candidates actualCount) (.empty count actualCount)

theorem rounds_succ (candidates : Nat → List Nat) (count actualCount k : Nat) :
    rounds candidates count actualCount (k + 1) =
      Assignment.augment candidates actualCount (rounds candidates count actualCount k) k := by
  rw [rounds, List.range_succ, List.foldl_append]
  rfl

/-- After each round the items considered so far are assigned as well as possible. -/
theorem optimal_rounds (candidates : Nat → List Nat) {count : Nat} (actualCount : Nat)
    (hk : k ≤ count) :
    Optimal candidates count actualCount k (rounds candidates count actualCount k) := by
  induction k with
  | zero => exact optimal_empty candidates count actualCount
  | succ k ih =>
      rw [rounds_succ]
      exact (ih (Nat.le_of_succ_le hk)).augment hk

/-- A round places its item, or no item gets or loses its place. -/
theorem placed_rounds_succ (candidates : Nat → List Nat) {count : Nat} (actualCount : Nat)
    (hk : k < count) :
    (rounds candidates count actualCount (k + 1)).placed =
        insert k (rounds candidates count actualCount k).placed ∨
      (rounds candidates count actualCount (k + 1)).placed =
        (rounds candidates count actualCount k).placed := by
  rw [rounds_succ]
  rcases (optimal_rounds candidates actualCount (Nat.le_of_lt hk)).augment_cases hk with
    ⟨-, hextends⟩ | ⟨hsame, -⟩
  · exact .inl (Pairing.placed_of_extends hextends)
  · exact .inr (congrArg Pairing.placed hsame)

/-- Later rounds change nothing in which of the first items have a place. -/
theorem filter_placed_rounds (candidates : Nat → List Nat) {count n : Nat} (actualCount : Nat)
    (hkn : k ≤ n) (hn : n ≤ count) :
    (rounds candidates count actualCount n).placed.filter (fun e => e < k) =
      (rounds candidates count actualCount k).placed := by
  induction n, hkn using Nat.le_induction with
  | base => exact Finset.filter_true_of_mem (optimal_rounds candidates actualCount hn).placed_lt
  | succ n hkn ih =>
      rcases placed_rounds_succ candidates actualCount hn with hplaced | hplaced
      · rw [hplaced, Finset.filter_insert, if_neg (Nat.not_lt.2 hkn), ih (Nat.le_of_succ_le hn)]
      · rw [hplaced, ih (Nat.le_of_succ_le hn)]

end Optimality

section Answer

theorem card_filter_range_eq_countP (f : α → Bool) (l : List α) :
    ((Finset.range l.length).filter fun i => l[i]?.any f).card = l.countP f := by
  induction l using List.reverseRecOn with
  | nil => rfl
  | append_singleton l x ih =>
      have hsame : ((Finset.range l.length).filter fun i => (l ++ [x])[i]?.any f) =
          (Finset.range l.length).filter fun i => l[i]?.any f := by
        apply Finset.filter_congr
        intro i hi
        rw [List.getElem?_append_left (Finset.mem_range.1 hi)]
      rw [List.length_append, List.length_singleton, Finset.range_add_one, Finset.filter_insert,
        hsame, List.countP_append, ← ih]
      by_cases hx : f x = true <;> simp [hx]

variable (candidates : List (List Nat)) (actualCount : Nat)

/-- The answer is read off the assignment after the last round. -/
theorem getElem?_maximum (e : Nat) :
    (maximum candidates actualCount)[e]? =
      (rounds (candidatesOf candidates) candidates.length actualCount
        candidates.length).assigned[e]? := by
  rw [maximum, Array.getElem?_toList, rounds]

theorem length_maximum : (maximum candidates actualCount).length = candidates.length := by
  have h := optimal_rounds (candidatesOf candidates) actualCount (Nat.le_refl candidates.length)
  rw [← h.assigned_size, maximum, Array.length_toList, rounds]

/-- Of the first items the answer places those that had a place as soon as they were through. -/
theorem countP_take_maximum {k : Nat} (hk : k ≤ candidates.length) :
    ((maximum candidates actualCount).take k).countP Option.isSome =
      (rounds (candidatesOf candidates) candidates.length actualCount k).placed.card := by
  rw [← card_filter_range_eq_countP, List.length_take, length_maximum, Nat.min_eq_left hk,
    ← filter_placed_rounds (candidatesOf candidates) actualCount hk (Nat.le_refl _)]
  congr 1
  ext e
  simp only [Finset.mem_filter, Finset.mem_range, Pairing.mem_placed, and_comm (b := e < k)]
  refine and_congr_right fun he => ?_
  rw [List.getElem?_take_of_lt he, getElem?_maximum, Pairing.assigned?]
  cases _ : (Pairing.assigned _)[e]? <;> simp

/-- Of the first items the answer places as many as any matching of these alone does. -/
theorem isGreatest_countP_take_maximum {k : Nat} (hk : k ≤ candidates.length) :
    IsGreatest (MatchingSizes (Admits (candidatesOf candidates) k actualCount))
      (((maximum candidates actualCount).take k).countP Option.isSome) := by
  rw [countP_take_maximum candidates actualCount hk]
  exact (optimal_rounds (candidatesOf candidates) actualCount hk).isGreatest

/-- The answer places as many expected items as any matching of candidates does. -/
theorem isGreatest_countP_maximum :
    IsGreatest
      (MatchingSizes (Admits (candidatesOf candidates) candidates.length actualCount))
      ((maximum candidates actualCount).countP Option.isSome) := by
  have h := isGreatest_countP_take_maximum candidates actualCount (Nat.le_refl _)
  rwa [List.take_of_length_le (Nat.le_of_eq (length_maximum candidates actualCount))] at h

end Answer

end DocMatch.Assignment
