import DocMatch.Proofs.Maximum
/-!
Assignments of the first items.  The answer is an assignment of items to candidates, and it is
as large as possible for the first so many items alone, for each number of them.  So an item is
left out only where the items up to it cannot have more places than those before it.
-/

namespace DocMatch.Assignment

variable {candidates : List (List Nat)} {actualCount k e : Nat}

/-- Whether each place is that of a candidate, and no two items have the same one. -/
structure IsAssignment (candidates : List (List Nat)) (actualCount : Nat)
    (places : List (Option Nat)) : Prop where
  length_eq : places.length = candidates.length
  candidate : ∀ e a : Nat, places[e]? = some (some a) →
    a < actualCount ∧ ∃ row, candidates[e]? = some row ∧ a ∈ row
  injective : ∀ e d a : Nat, places[e]? = some (some a) → places[d]? = some (some a) → e = d

/-- How many of the first expected items can have a place at once. -/
def PrefixSizes (candidates : List (List Nat)) (actualCount k : Nat) : Set Nat :=
  MatchingSizes (Admits (candidatesOf (candidates.take k)) k actualCount)

/-- The first items have the candidates they have among all items. -/
theorem prefixSizes_eq (candidates : List (List Nat)) (actualCount k : Nat) :
    PrefixSizes candidates actualCount k =
      MatchingSizes (Admits (candidatesOf candidates) k actualCount) := by
  rw [PrefixSizes]
  congr 1
  funext e a
  refine propext (and_congr_right fun he => ?_)
  rw [candidatesOf, candidatesOf, List.getElem?_take_of_lt he]

theorem assigned?_of_getElem?_maximum {a : Nat}
    (h : (maximum candidates actualCount)[e]? = some (some a)) :
    (rounds (candidatesOf candidates) candidates.length actualCount
      candidates.length).assigned? e = some a := by
  rw [getElem?_maximum] at h
  rw [Pairing.assigned?, h, Option.join_some]

theorem isAssignment_maximum (candidates : List (List Nat)) (actualCount : Nat) :
    IsAssignment candidates actualCount (maximum candidates actualCount) := by
  have h := optimal_rounds (candidatesOf candidates) actualCount (Nat.le_refl candidates.length)
  refine ⟨length_maximum candidates actualCount, fun e a he => ?_, fun e d a he hd => ?_⟩
  · have hassigned := assigned?_of_getElem?_maximum he
    have howner := ((h.agrees.assigned_iff e a).1 hassigned).1
    have hcandidate := h.agrees.candidate e a hassigned
    refine ⟨h.owner_size ▸ Pairing.lt_owner_size howner, ?_⟩
    cases hrow : candidates[e]? with
    | none => simp [candidatesOf, hrow] at hcandidate
    | some row => exact ⟨row, rfl, by simpa [candidatesOf, hrow] using hcandidate⟩
  · have heowner := ((h.agrees.assigned_iff e a).1 (assigned?_of_getElem?_maximum he)).1
    have hdowner := ((h.agrees.assigned_iff d a).1 (assigned?_of_getElem?_maximum hd)).1
    exact Option.some.inj (heowner.symm.trans hdowner)

theorem getElem?_maximum_eq_none_iff (he : e < candidates.length) :
    (maximum candidates actualCount)[e]? = some none ↔
      e ∉ (rounds (candidatesOf candidates) candidates.length actualCount (e + 1)).placed := by
  rw [← filter_placed_rounds (candidatesOf candidates) actualCount he (Nat.le_refl _),
    Finset.mem_filter, Pairing.mem_placed, Pairing.assigned?, ← getElem?_maximum]
  have hlt : e < (maximum candidates actualCount).length := by rwa [length_maximum]
  rw [List.getElem?_eq_getElem hlt]
  cases (maximum candidates actualCount)[e] <;> simp

/-- An item is left out exactly if its round does not make the assignment larger. -/
theorem not_mem_placed_rounds_succ_iff (he : e < candidates.length) :
    e ∉ (rounds (candidatesOf candidates) candidates.length actualCount (e + 1)).placed ↔
      (rounds (candidatesOf candidates) candidates.length actualCount (e + 1)).placed.card =
        (rounds (candidatesOf candidates) candidates.length actualCount e).placed.card := by
  have hbefore := (optimal_rounds (candidatesOf candidates) actualCount
    (Nat.le_of_lt he)).not_mem_placed
  rcases placed_rounds_succ (candidatesOf candidates) actualCount he with hplaced | hplaced
  · rw [hplaced, Finset.card_insert_of_notMem hbefore]
    simp
  · rw [hplaced]
    exact iff_of_true hbefore rfl

/-- The answer assigns items to candidates, of the first items as many as is possible with these
alone, however many they are; and it leaves an item out exactly if with it no more of the items
so far can be placed than without it. -/
theorem maximum_greatest_on_prefixes (candidates : List (List Nat)) (actualCount : Nat) :
    IsAssignment candidates actualCount (maximum candidates actualCount) ∧
    (∀ k ≤ candidates.length, IsGreatest (PrefixSizes candidates actualCount k)
      (((maximum candidates actualCount).take k).countP Option.isSome)) ∧
    ∀ e < candidates.length, ∀ without within,
      IsGreatest (PrefixSizes candidates actualCount e) without →
      IsGreatest (PrefixSizes candidates actualCount (e + 1)) within →
        ((maximum candidates actualCount)[e]? = some none ↔ within = without) := by
  refine ⟨isAssignment_maximum candidates actualCount, fun k hk => ?_, ?_⟩
  · rw [prefixSizes_eq]
    exact isGreatest_countP_take_maximum candidates actualCount hk
  · intro e he without within hwithout hwithin
    rw [prefixSizes_eq] at hwithout hwithin
    have hround := optimal_rounds (candidatesOf candidates) actualCount (Nat.le_of_lt he)
    have hnext := optimal_rounds (candidatesOf candidates) actualCount he
    rw [getElem?_maximum_eq_none_iff he, not_mem_placed_rounds_succ_iff he,
      hwithout.unique hround.isGreatest, hwithin.unique hnext.isGreatest]

/-- The second item takes the place of the first one, which moves to another, so that both have
a place. -/
theorem maximum_greatest_on_prefixes_moved_item :
    IsGreatest (PrefixSizes [[0, 1], [0]] 2 1) 1 ∧ IsGreatest (PrefixSizes [[0, 1], [0]] 2 2) 2 ∧
      (maximum [[0, 1], [0]] 2)[1]? ≠ some none := by
  obtain ⟨-, hsizes, hleft⟩ := maximum_greatest_on_prefixes [[0, 1], [0]] 2
  have hanswer : maximum [[0, 1], [0]] 2 = [some 1, some 0] := by cbv
  have hone := hsizes 1 (by decide)
  have htwo := hsizes 2 (by decide)
  rw [hanswer] at hone htwo
  refine ⟨hone, htwo, fun hnone => ?_⟩
  cases (hleft 1 (by decide) _ _ hone htwo).1 hnone

end DocMatch.Assignment
