import DocMatch.Proofs.RoundingIntervals
/-!
The shortest decimal of a double.  It lies on the coarsest grid of a power of ten that has a point
in the interval of the double, so it is read as the double, and no decimal with fewer places is.
-/

namespace DocMatch

namespace Magnitude

variable {m : Magnitude} {n d : Nat} {q : ℚ}

section Grids

variable {e : Int} {k : Nat}

theorem gridStep_pos (e : Int) : 0 < (gridStep e).1 ∧ 0 < (gridStep e).2 := by
  have hquarters : 0 < quartersPerOne := Nat.cast_pos.mp quartersPerOne_pos
  unfold gridStep
  split
  · exact ⟨Nat.mul_pos (tenTo_pos _) hquarters, Nat.one_pos⟩
  · exact ⟨hquarters, tenTo_pos _⟩

/-- The step of a grid is its power of ten. -/
theorem gridStep_eq (e : Int) :
    ((gridStep e).1 : ℚ) = 10 ^ e * quartersPerOne * (gridStep e).2 := by
  unfold gridStep
  split
  case isTrue hnonneg =>
    obtain ⟨n, rfl⟩ := Int.eq_ofNat_of_zero_le hnonneg
    rw [Nat.cast_mul, cast_tenTo, Int.toNat_natCast, zpow_natCast, Nat.cast_one, mul_one]
  case isFalse hneg =>
    obtain ⟨n, rfl⟩ := Int.eq_negSucc_of_lt_zero (not_le.mp hneg)
    rw [cast_tenTo, zpow_negSucc, mul_right_comm, Int.natAbs_negSucc,
      inv_mul_cancel₀ (by positivity), one_mul]

/-- A magnitude catches what the check of its ends admits. -/
theorem roundsHere_iff (hd : 0 < d) (hn : (n : ℚ) = q * quartersPerOne * d) :
    m.roundsHere n d = true ↔ m.Catches q := by
  have hd' : (0 : ℚ) < d := Nat.cast_pos.mpr hd
  have hle : ∀ a : Nat, (a * d ≤ n ↔ (a : ℚ) ≤ q * quartersPerOne) ∧
      (a * d < n ↔ (a : ℚ) < q * quartersPerOne) := by
    intro a
    rw [← mul_le_mul_iff_left₀ hd', ← mul_lt_mul_iff_left₀ hd', ← hn]
    constructor <;> norm_cast
  have hge : ∀ a : Nat, (n ≤ a * d ↔ q * quartersPerOne ≤ a) ∧
      (n < a * d ↔ q * quartersPerOne < a) := by
    intro a
    rw [← mul_le_mul_iff_left₀ hd', ← mul_lt_mul_iff_left₀ hd', ← hn]
    constructor <;> norm_cast
  unfold roundsHere Catches
  split
  · rw [Bool.and_eq_true, decide_eq_true_eq, decide_eq_true_eq, (hle _).1, (hge _).1]
  · rw [Bool.and_eq_true, decide_eq_true_eq, decide_eq_true_eq, (hle _).2, (hge _).2]

theorem roundsHere_multiple (m : Magnitude) (e : Int) (k : Nat) :
    m.roundsHere (k * (gridStep e).1) (gridStep e).2 = true ↔ m.Catches (k * 10 ^ e) := by
  apply roundsHere_iff (gridStep_pos e).2
  rw [Nat.cast_mul, gridStep_eq]
  ring

/-- The number of steps of a grid up to the value. -/
def stepsBelow (m : Magnitude) (e : Int) : Nat :=
  4 * m.units * (gridStep e).2 / (gridStep e).1

theorem stepsBelow_le (m : Magnitude) (e : Int) : m.stepsBelow e * 10 ^ e ≤ m.value := by
  have hd : (0 : ℚ) < (gridStep e).2 := Nat.cast_pos.mpr (gridStep_pos e).2
  have hfloor : ((m.stepsBelow e * (gridStep e).1 : Nat) : ℚ) ≤
      (4 * m.units * (gridStep e).2 : Nat) :=
    Nat.cast_le.mpr (Nat.div_mul_le_self _ _)
  rw [Nat.cast_mul, gridStep_eq, Nat.cast_mul, Nat.cast_mul, Nat.cast_ofNat, ← value_mul_quarters,
    ← mul_assoc, ← mul_assoc] at hfloor
  exact le_of_mul_le_mul_right (le_of_mul_le_mul_right hfloor hd) quartersPerOne_pos

theorem lt_stepsBelow_add_one (m : Magnitude) (e : Int) :
    m.value < (m.stepsBelow e + 1 : Nat) * 10 ^ e := by
  have hd : (0 : ℚ) < (gridStep e).2 := Nat.cast_pos.mpr (gridStep_pos e).2
  have hfloor : ((4 * m.units * (gridStep e).2 : Nat) : ℚ) <
      ((m.stepsBelow e + 1) * (gridStep e).1 : Nat) :=
    Nat.cast_lt.mpr (Nat.lt_mul_of_div_lt (Nat.lt_succ_self _) (gridStep_pos e).1)
  rw [Nat.cast_mul _ (gridStep e).1, gridStep_eq, Nat.cast_mul, Nat.cast_mul, Nat.cast_ofNat,
    ← value_mul_quarters, ← mul_assoc, ← mul_assoc] at hfloor
  exact lt_of_mul_lt_mul_right (lt_of_mul_lt_mul_right hfloor hd.le) quartersPerOne_pos.le

/-- If a grid has a point in the interval, one of the two points around the value is. -/
theorem catches_step (hm : m.significand ≠ 0) (h : m.Catches (k * 10 ^ e)) :
    m.Catches (m.stepsBelow e * 10 ^ e) ∨ m.Catches ((m.stepsBelow e + 1 : Nat) * 10 ^ e) := by
  have hpower : (0 : ℚ) ≤ 10 ^ e := by positivity
  rcases Nat.lt_or_ge (m.stepsBelow e) k with habove | hbelow
  · right
    apply (catches_value hm).between h (m.lt_stepsBelow_add_one e).le
    exact mul_le_mul_of_nonneg_right (Nat.cast_le.mpr habove) hpower
  · left
    apply h.between (catches_value hm) _ (m.stepsBelow_le e)
    exact mul_le_mul_of_nonneg_right (Nat.cast_le.mpr hbelow) hpower

/-- What is taken from a grid is caught. -/
theorem catches_of_onGrid? (h : m.onGrid? e = some k) : m.Catches (k * 10 ^ e) := by
  rw [← roundsHere_multiple]
  unfold onGrid? at h
  dsimp only at h
  split at h
  case h_1 => cases h
  case h_2 hbelow _ =>
    cases h
    exact hbelow
  case h_3 _ habove =>
    cases h
    exact habove
  case h_4 hbelow habove =>
    rcases Nat.mod_two_eq_zero_or_one (4 * m.units * (gridStep e).2 / (gridStep e).1) with hmod | hmod
    all_goals
      rw [hmod] at h
      split at h
      · cases h
        exact hbelow
      · split at h
        · cases h
          exact habove
        · cases h
          assumption

/-- A grid that nothing is taken from has no point in the interval. -/
theorem onGrid?_eq_none_iff (hm : m.significand ≠ 0) :
    m.onGrid? e = none ↔ ∀ k : Nat, ¬ m.Catches (k * 10 ^ e) := by
  constructor
  · intro h k hk
    have hstep := catches_step hm hk
    rw [← roundsHere_multiple, ← roundsHere_multiple] at hstep
    unfold stepsBelow at hstep
    unfold onGrid? at h
    dsimp only at h
    split at h
    case h_1 hbelow habove =>
      rw [hbelow, habove] at hstep
      exact hstep.elim Bool.noConfusion Bool.noConfusion
    case h_4 =>
      split at h
      · cases h
      · split at h <;> cases h
    all_goals cases h
  · intro h
    cases hgrid : m.onGrid? e with
    | none => rfl
    | some k => exact absurd (catches_of_onGrid? hgrid) (h k)

/-- Every magnitude is less than `10 ^ 309`, and so is what it catches. -/
theorem not_catches_coarse (hm : m.significand ≠ 0) (k : Nat) :
    ¬ m.Catches (k * 10 ^ (309 : Int)) := by
  intro h
  have hk : (1 : ℚ) ≤ k := by
    have hpos : (0 : ℚ) < k := pos_of_mul_pos_left (h.pos hm) (by positivity)
    exact_mod_cast hpos
  have hpower : (2 : ℚ) ^ 1024 ≤ 10 ^ (309 : Int) := by
    have hbound : twoTo 1024 ≤ tenTo 309 := by decide +kernel
    rw [← Nat.cast_le (α := ℚ), cast_twoTo, cast_tenTo] at hbound
    exact_mod_cast hbound
  have hend : (m.upperEnd : ℚ) < 2 ^ 1024 * quartersPerOne := by
    have hunits : m.upperEnd < twoTo 1024 * quartersPerOne := by
      calc m.upperEnd = (4 * m.significand + 2) * twoTo m.shift := by
            rw [upperEnd_eq, units]
            ring
        _ < 4 * twoTo 53 * twoTo m.shift :=
            Nat.mul_lt_mul_of_pos_right (by have := m.significand_lt; omega) (twoTo_pos _)
        _ ≤ 4 * twoTo 53 * twoTo 2045 := Nat.mul_le_mul_left _ (twoTo_le_twoTo m.shift_le)
        _ = twoTo 1024 * quartersPerOne := by decide +kernel
    rw [← cast_twoTo]
    exact_mod_cast hunits
  have hgreat : (2 : ℚ) ^ 1024 ≤ k * 10 ^ (309 : Int) :=
    hpower.trans (le_mul_of_one_le_left (by positivity) hk)
  exact absurd h.le.2 (not_le.mpr (hend.trans_le
    (mul_le_mul_of_nonneg_right hgreat quartersPerOne_pos.le)))

/-- A grid that is not coarser than half of the interval has a point in it. -/
theorem catches_above (hm : m.significand ≠ 0)
    (hstep : (10 ^ e * quartersPerOne : ℚ) < 2 * 2 ^ m.shift) :
    m.Catches ((m.stepsBelow e + 1 : Nat) * 10 ^ e) := by
  have hbelow := mul_le_mul_of_nonneg_right (m.stepsBelow_le e) quartersPerOne_pos.le
  have habove := mul_lt_mul_of_pos_right (m.lt_stepsBelow_add_one e) quartersPerOne_pos
  rw [value_mul_quarters] at hbelow habove
  have hlow := cast_lowerEnd hm
  have hreach : (0 : ℚ) < m.lowerReach :=
    Nat.cast_pos.mpr ((twoTo_pos _).trans_le m.twoTo_le_lowerReach)
  apply catches_of_lt
  · linarith
  · rw [cast_upperEnd]
    push_cast
    linarith

/-- The step of the finest grid is less than a quarter of a unit. -/
theorem finest_step_lt : (10 ^ (-324 : Int) * quartersPerOne : ℚ) < 1 := by
  have hbound : quartersPerOne < tenTo 324 := by decide +kernel
  rw [← Nat.cast_lt (α := ℚ), cast_tenTo] at hbound
  rw [zpow_neg, inv_mul_lt_one₀ (by positivity)]
  exact_mod_cast hbound

/-- A coefficient and an exponent of a caught number, such that none is caught that has its places
to the left of them. -/
structure IsShortest (m : Magnitude) (c : Nat) (e : Int) : Prop where
  catches : m.Catches (c * 10 ^ e)
  coarsest : ∀ k : Nat, ¬ m.Catches (k * 10 ^ (e + 1))
  low : -324 ≤ e
  high : e ≤ 308

theorem findSome?_range {β : Type} {f : Nat → Option β} {b : β}
    (h : (List.range n).findSome? f = some b) : ∃ i < n, f i = some b ∧ ∀ j < i, f j = none := by
  obtain ⟨before, i, after, hrange, hi, hbefore⟩ := List.findSome?_eq_some_iff.mp h
  rw [List.range_eq_range', List.range'_eq_append_iff] at hrange
  obtain ⟨j, hj, rfl, hrest⟩ := hrange
  obtain ⟨rfl, hpos, -⟩ := List.range'_eq_cons_iff.mp hrest.symm
  refine ⟨_, by omega, hi, fun k hk => hbefore k ?_⟩
  rw [List.mem_range'_1]
  omega

theorem isShortest_shortest (hm : m.significand ≠ 0) :
    m.IsShortest m.shortest.1 m.shortest.2 := by
  rw [shortest, if_neg hm]
  cases hfound : (List.range 633).findSome? fun (i : Nat) =>
      (m.onGrid? (308 - i)).map fun n => (n, (308 - i : Int)) with
  | none =>
    have hfinest := List.findSome?_eq_none_iff.mp hfound 632 (List.mem_range.mpr (by decide))
    rw [Option.map_eq_none_iff, onGrid?_eq_none_iff hm] at hfinest
    have hshift : (1 : ℚ) ≤ 2 ^ m.shift := one_le_pow₀ (by norm_num)
    have hstep := finest_step_lt.trans_le (show (1 : ℚ) ≤ 2 * 2 ^ m.shift by linarith)
    exact absurd (catches_above hm hstep) (hfinest _)
  | some found =>
    obtain ⟨i, hi, hfound, hbefore⟩ := findSome?_range hfound
    obtain ⟨c, hc, rfl⟩ := Option.map_eq_some_iff.mp hfound
    refine ⟨catches_of_onGrid? hc, ?_, ?_, ?_⟩
    · intro k
      cases i with
      | zero => exact not_catches_coarse hm k
      | succ i =>
        have hnone := hbefore i (Nat.lt_succ_self i)
        rw [Option.map_eq_none_iff, onGrid?_eq_none_iff hm] at hnone
        have hexponent : (308 - (i + 1 : Nat) : Int) + 1 = 308 - i := by omega
        rw [Option.getD_some, hexponent]
        exact hnone k
    all_goals
      rw [Option.getD_some]
      dsimp only
      omega

variable {c : Nat}

theorem IsShortest.coefficient_pos (hm : m.significand ≠ 0) (h : m.IsShortest c e) : 0 < c := by
  have hpos : (0 : ℚ) < c := pos_of_mul_pos_left (h.catches.pos hm) (by positivity)
  exact_mod_cast hpos

/-- No caught number has fewer places. -/
theorem IsShortest.le_exponent (h : m.IsShortest c e) {e' : Int} (hk : m.Catches (k * 10 ^ e')) :
    e' ≤ e := by
  by_contra hlt
  obtain ⟨j, hj⟩ := Int.eq_ofNat_of_zero_le (show 0 ≤ e' - (e + 1) by omega)
  have heq : e' = j + (e + 1) := by omega
  rw [heq, zpow_add₀ (by norm_num), zpow_natCast, ← mul_assoc] at hk
  apply h.coarsest (k * 10 ^ j)
  push_cast
  exact hk

/-- A grid without a point in the interval is coarser than half of it. -/
theorem IsShortest.shift_le (hm : m.significand ≠ 0) (h : m.IsShortest c e) :
    2 * 2 ^ m.shift ≤ (10 ^ (e + 1) * quartersPerOne : ℚ) :=
  not_lt.mp fun hstep => h.coarsest _ (catches_above hm hstep)

/-- The shortest decimals have at most 18 digits. -/
theorem IsShortest.coefficient_lt (hm : m.significand ≠ 0) (h : m.IsShortest c e) :
    c < tenTo 18 := by
  have hquarter : (0 : ℚ) < 10 ^ e * quartersPerOne := mul_pos (by positivity) quartersPerOne_pos
  have hshift := h.shift_le hm
  have hend := h.catches.le.2
  rw [cast_upperEnd, cast_units, mul_assoc] at hend
  rw [zpow_add_one₀ (by norm_num), mul_right_comm] at hshift
  have hsignificand := mul_le_mul_of_nonneg_left hshift
    (show (0 : ℚ) ≤ 2 * m.significand + 1 by positivity)
  have hle : (c : ℚ) ≤ 20 * m.significand + 10 := by
    apply le_of_mul_le_mul_right _ hquarter
    linarith
  have hlt := m.significand_le
  rw [← Nat.cast_lt (α := ℚ), cast_tenTo]
  linarith

end Grids

/-- The number that the shortest digits of a magnitude write, under a sign. -/
def shown (m : Magnitude) (negative : Bool) : Scientific :=
  ⟨negative, m.shortest.1, m.shortest.2⟩

theorem eq_zero_of_significand (hm : m.significand = 0) : m = zero := by
  apply eq_of_units_eq
  rw [units, hm, Nat.zero_mul]
  exact (Nat.zero_mul _).symm

end Magnitude

namespace Double

variable {m : Magnitude} {s : Scientific}

theorem ofRatio_eq_finite_iff {sign negative : Bool} {n d : Nat} :
    ofRatio sign n d = .finite negative m ↔ sign = negative ∧ Magnitude.nearest? n d = some m := by
  cases hnearest : Magnitude.nearest? n d with
  | none => simp only [ofRatio_eq, hnearest, Option.elim_none, reduceCtorEq, and_false]
  | some m' => simp only [ofRatio_eq, hnearest, Option.elim_some, finite.injEq, Option.some.injEq]

/-- A number is read as the double of its sign whose magnitude catches it. -/
theorem ofScientific_eq_finite_iff {negative : Bool} (hm : m.significand ≠ 0)
    (hlow : -400 ≤ s.exponent) (hhigh : s.exponent ≤ 400) :
    ofScientific s = .finite negative m ↔
      s.negative = negative ∧ m.Catches (s.coefficient * 10 ^ s.exponent) := by
  by_cases hzero : s.coefficient = 0
  · rw [ofScientific, if_pos hzero, finite.injEq, hzero, Nat.cast_zero, zero_mul]
    constructor
    · rintro ⟨-, h⟩
      exact absurd (congrArg Magnitude.significand h).symm hm
    · rintro ⟨-, h⟩
      exact absurd (h.pos hm) (lt_irrefl 0)
  by_cases hwhole : 0 ≤ s.exponent
  · obtain ⟨k, hk⟩ := Int.eq_ofNat_of_zero_le hwhole
    have hplaces : s.exponent.toNat = k := by omega
    rw [ofScientific, if_neg hzero, if_pos hwhole, if_neg (by omega), ofRatio_eq_finite_iff,
      Magnitude.nearest?_eq_some_iff Nat.one_pos hm, hplaces, hk, Nat.cast_one, div_one,
      Nat.cast_mul, cast_tenTo, zpow_natCast]
  · obtain ⟨k, hk⟩ := Int.eq_ofNat_of_zero_le (show 0 ≤ -s.exponent by omega)
    have hexponent : s.exponent = -k := by omega
    have hplaces : s.exponent.natAbs = k := by omega
    have hmoderate : ¬ 400 + s.coefficient.log2 < k := by omega
    simp only [ofScientific, if_neg hzero, if_neg hwhole, hplaces, if_neg hmoderate]
    rw [ofRatio_eq_finite_iff, Magnitude.nearest?_eq_some_iff (tenTo_pos k) hm, hexponent,
      cast_tenTo, zpow_neg, zpow_natCast, div_eq_mul_inv]

/-- A double is what its shortest digits are read as. -/
theorem ofScientific_shown (negative : Bool) (m : Magnitude) :
    ofScientific (m.shown negative) = .finite negative m := by
  by_cases hm : m.significand = 0
  · have hshown : m.shown negative = ⟨negative, 0, 0⟩ := by
      rw [Magnitude.shown, Magnitude.shortest, if_pos hm]
    rw [hshown, Magnitude.eq_zero_of_significand hm, ofScientific, if_pos rfl]
  · have hshortest := Magnitude.isShortest_shortest hm
    have hlow := hshortest.low
    have hhigh := hshortest.high
    have hexponent : (m.shown negative).exponent = m.shortest.2 := rfl
    exact (ofScientific_eq_finite_iff hm (by omega) (by omega)).mpr ⟨rfl, hshortest.catches⟩

end Double

end DocMatch
