import DocMatch.Number.Shortest
import DocMatch.Proofs.Rounding
import Mathlib.Data.Nat.Cast.Order.Field
/-!
The interval of a magnitude.  The numbers that are rounded to a magnitude are those of an interval
around it, which ends half way to its two neighbours.
-/

namespace DocMatch

namespace Magnitude

/-- Whether a number lies in the interval of a magnitude.  The ends belong to that of an even
one. -/
def Catches (m : Magnitude) (q : ℚ) : Prop :=
  if m.significand % 2 = 0 then
    m.lowerEnd ≤ q * quartersPerOne ∧ q * quartersPerOne ≤ m.upperEnd
  else m.lowerEnd < q * quartersPerOne ∧ q * quartersPerOne < m.upperEnd

variable {m : Magnitude} {n d : Nat} {p q r : ℚ}

theorem quartersPerOne_pos : (0 : ℚ) < quartersPerOne :=
  Nat.cast_pos.mpr (Nat.mul_pos (by decide) (twoTo_pos 1074))

/-- The distance from the value to the lower end, in quarters of a unit. -/
def lowerReach (m : Magnitude) : Nat :=
  if m.significand = twoTo 52 ∧ m.shift ≠ 0 then twoTo m.shift else twoTo (m.shift + 1)

theorem cast_units (m : Magnitude) : (m.units : ℚ) = m.significand * 2 ^ m.shift := by
  rw [units, Nat.cast_mul, cast_twoTo]

theorem twoTo_succ (n : Nat) : twoTo (n + 1) = 2 * twoTo n := by
  rw [twoTo_add, Nat.mul_comm]
  rfl

theorem lowerReach_le (m : Magnitude) : m.lowerReach ≤ 2 * twoTo m.shift := by
  unfold lowerReach
  split
  · omega
  · rw [twoTo_succ]

theorem twoTo_le_lowerReach (m : Magnitude) : twoTo m.shift ≤ m.lowerReach := by
  unfold lowerReach
  split
  · exact le_rfl
  · rw [twoTo_succ]
    omega

theorem twoTo_shift_le_units (hm : m.significand ≠ 0) : twoTo m.shift ≤ m.units :=
  Nat.le_mul_of_pos_left _ (Nat.pos_of_ne_zero hm)

theorem lowerEnd_add_lowerReach (hm : m.significand ≠ 0) :
    m.lowerEnd + m.lowerReach = 4 * m.units := by
  have hunits := twoTo_shift_le_units hm
  have hreach := m.lowerReach_le
  have hend : m.lowerEnd = 4 * m.units - m.lowerReach := by
    unfold lowerEnd lowerReach
    split <;> rfl
  omega

theorem lowerEnd_pos (hm : m.significand ≠ 0) : 0 < m.lowerEnd := by
  have hends := lowerEnd_add_lowerReach hm
  have hunits := twoTo_shift_le_units hm
  have hreach := m.lowerReach_le
  have hpos := twoTo_pos m.shift
  omega

theorem upperEnd_eq (m : Magnitude) : m.upperEnd = 4 * m.units + 2 * twoTo m.shift := by
  rw [upperEnd, twoTo_succ]

/-- What lies strictly between the ends is caught. -/
theorem catches_of_lt (hlow : (m.lowerEnd : ℚ) < q * quartersPerOne)
    (hhigh : q * quartersPerOne < m.upperEnd) : m.Catches q := by
  unfold Catches
  split
  · exact ⟨hlow.le, hhigh.le⟩
  · exact ⟨hlow, hhigh⟩

theorem Catches.le (h : m.Catches q) :
    m.lowerEnd ≤ q * quartersPerOne ∧ q * quartersPerOne ≤ m.upperEnd := by
  unfold Catches at h
  split at h
  · exact h
  · exact ⟨h.1.le, h.2.le⟩

theorem Catches.pos (hm : m.significand ≠ 0) (h : m.Catches q) : 0 < q := by
  have hend : (0 : ℚ) < m.lowerEnd := Nat.cast_pos.mpr (lowerEnd_pos hm)
  exact pos_of_mul_pos_left (hend.trans_le h.le.1) quartersPerOne_pos.le

/-- The interval has no gaps. -/
theorem Catches.between (hp : m.Catches p) (hr : m.Catches r) (hpq : p ≤ q) (hqr : q ≤ r) :
    m.Catches q := by
  have hlow := mul_le_mul_of_nonneg_right hpq quartersPerOne_pos.le
  have hhigh := mul_le_mul_of_nonneg_right hqr quartersPerOne_pos.le
  unfold Catches at hp hr ⊢
  split at hp
  case isTrue heven =>
    rw [if_pos heven] at hr ⊢
    exact ⟨hp.1.trans hlow, hhigh.trans hr.2⟩
  case isFalse hodd =>
    rw [if_neg hodd] at hr ⊢
    exact ⟨hp.1.trans_le hlow, hhigh.trans_lt hr.2⟩

theorem value_mul_quarters (m : Magnitude) : m.value * quartersPerOne = 4 * m.units := by
  rw [value, quartersPerOne, Nat.cast_mul, mul_left_comm, div_mul_cancel₀ _ unitsPerOne_pos.ne',
    Nat.cast_ofNat]

theorem catches_value (hm : m.significand ≠ 0) : m.Catches m.value := by
  have hends := lowerEnd_add_lowerReach hm
  have hreach := m.twoTo_le_lowerReach
  have hpos := twoTo_pos m.shift
  apply catches_of_lt
  · rw [value_mul_quarters]
    exact_mod_cast (by omega : m.lowerEnd < 4 * m.units)
  · rw [value_mul_quarters, upperEnd_eq]
    exact_mod_cast (by omega : 4 * m.units < 4 * m.units + 2 * twoTo m.shift)

/-- Two numbers that are at most a half away, and even if it is just a half, are the same. -/
theorem eq_of_half {a b : Nat} {s : ℚ} (ha : |(a : ℚ) - s| ≤ 1 / 2)
    (haTie : |(a : ℚ) - s| = 1 / 2 → a % 2 = 0) (hb : |(b : ℚ) - s| ≤ 1 / 2)
    (hbTie : |(b : ℚ) - s| = 1 / 2 → b % 2 = 0) : a = b := by
  by_contra hne
  have hne' : (b : Int) ≠ a := by omega
  have ha' : |(a : ℚ) - s| = 1 / 2 :=
    ha.antisymm (half_le_abs_sub (r := b) (by exact_mod_cast hb) hne'.symm)
  have hb' : |(b : ℚ) - s| = 1 / 2 :=
    hb.antisymm (half_le_abs_sub (r := a) (by exact_mod_cast ha) hne')
  have hclose : |((b : Int) - a : Int)| ≤ 1 := by
    have htriangle : |(b : ℚ) - a| ≤ |b - s| + |s - a| := abs_sub_le _ _ _
    rw [abs_sub_comm s, hb', ha'] at htriangle
    norm_num at htriangle
    exact_mod_cast htriangle
  have hparity := And.intro (haTie ha') (hbTie hb')
  rw [abs_le] at hclose
  omega

section Nearest

/-- A quotient in units of `2 ^ -1074`. -/
def unitsOf (n d : Nat) : ℚ :=
  ((n * unitsPerOne : Nat) : ℚ) / d

theorem mul_quarters (n d : Nat) : (n / d : ℚ) * quartersPerOne = 4 * unitsOf n d := by
  rw [unitsOf, quartersPerOne]
  push_cast
  ring

theorem floor_unitsOf_le (n d : Nat) : ((n * unitsPerOne / d : Nat) : ℚ) ≤ unitsOf n d :=
  Nat.cast_div_le

theorem le_floor_unitsOf (hd : 0 < d) {k : Nat} (h : (k : ℚ) ≤ unitsOf n d) :
    k ≤ n * unitsPerOne / d := by
  rw [unitsOf, le_div_iff₀ (Nat.cast_pos.mpr hd)] at h
  rw [Nat.le_div_iff_mul_le hd]
  exact_mod_cast h

theorem floor_unitsOf_lt {k : Nat} (h : unitsOf n d < k) : n * unitsPerOne / d < k := by
  exact_mod_cast (floor_unitsOf_le n d).trans_lt h

/-- Whether a number of units is rounded to `c` when it is counted in steps of `2 ^ k` units. -/
structure IsAround (c k : Nat) (y : ℚ) : Prop where
  below : ((c : ℚ) - 1 / 2) * 2 ^ k ≤ y
  above : y ≤ ((c : ℚ) + 1 / 2) * 2 ^ k
  odd : c % 2 ≠ 0 → ((c : ℚ) - 1 / 2) * 2 ^ k < y ∧ y < ((c : ℚ) + 1 / 2) * 2 ^ k

theorem isAround_iff {c k : Nat} {y : ℚ} : IsAround c k y ↔
    |(c : ℚ) - y / 2 ^ k| ≤ 1 / 2 ∧ (|(c : ℚ) - y / 2 ^ k| = 1 / 2 → c % 2 = 0) := by
  have hstep : (0 : ℚ) < 2 ^ k := by positivity
  have hle : |(c : ℚ) - y / 2 ^ k| ≤ 1 / 2 ↔
      ((c : ℚ) - 1 / 2) * 2 ^ k ≤ y ∧ y ≤ ((c : ℚ) + 1 / 2) * 2 ^ k := by
    rw [abs_le, ← le_div_iff₀ hstep, ← div_le_iff₀ hstep]
    constructor <;> rintro ⟨hlow, hhigh⟩ <;> constructor <;> linarith
  have hlt : |(c : ℚ) - y / 2 ^ k| < 1 / 2 ↔
      ((c : ℚ) - 1 / 2) * 2 ^ k < y ∧ y < ((c : ℚ) + 1 / 2) * 2 ^ k := by
    rw [abs_lt, ← lt_div_iff₀ hstep, ← div_lt_iff₀ hstep]
    constructor <;> rintro ⟨hlow, hhigh⟩ <;> constructor <;> linarith
  constructor
  · rintro ⟨hbelow, habove, hodd⟩
    refine ⟨hle.mpr ⟨hbelow, habove⟩, fun htie => ?_⟩
    by_contra hne
    exact (hlt.mpr (hodd hne)).ne htie
  · rintro ⟨hhalf, htie⟩
    obtain ⟨hbelow, habove⟩ := hle.mp hhalf
    exact ⟨hbelow, habove, fun hodd => hlt.mp (lt_of_le_of_ne hhalf fun heq => hodd (htie heq))⟩

/-- A quotient is rounded to the multiple that its nearest magnitude is made of. -/
theorem isAround_rounded (n : Nat) (hd : 0 < d) :
    IsAround (rounded n d) (roundedShift n d) (unitsOf n d) := by
  have hspec := roundHalfEven_spec (n * unitsPerOne)
    (Nat.mul_pos hd (twoTo_pos (roundedShift n d)))
  rw [Nat.cast_mul d, cast_twoTo, ← div_div] at hspec
  exact isAround_iff.mpr hspec

theorem IsAround.rounded_eq (hd : 0 < d) {c : Nat}
    (h : IsAround c (roundedShift n d) (unitsOf n d)) : rounded n d = c := by
  obtain ⟨hhalf, htie⟩ := isAround_iff.mp (isAround_rounded n hd)
  obtain ⟨hhalf', htie'⟩ := isAround_iff.mp h
  exact eq_of_half hhalf htie hhalf' htie'

/-- The step is told by the number of bits of the quotient. -/
theorem roundedShift_eq {k : Nat} (hd : 0 < d)
    (hlow : k = 0 ∨ (2 : ℚ) ^ (52 + k) ≤ unitsOf n d) (hhigh : unitsOf n d < 2 ^ (53 + k)) :
    roundedShift n d = k := by
  have hfloor : n * unitsPerOne / d < twoTo (53 + k) := by
    apply floor_unitsOf_lt
    rwa [cast_twoTo]
  unfold roundedShift
  rcases hlow with rfl | hlow
  · by_cases hzero : n * unitsPerOne / d = 0
    · rw [hzero]
      decide
    · have hlog := log2_lt hzero hfloor
      omega
  · have hbits : twoTo (52 + k) ≤ n * unitsPerOne / d := by
      apply le_floor_unitsOf hd
      rwa [cast_twoTo]
    have hne : n * unitsPerOne / d ≠ 0 := ((twoTo_pos _).trans_le hbits).ne'
    have hlog := log2_lt hne hfloor
    have hlog' : 52 + k ≤ (n * unitsPerOne / d).log2 := (Nat.le_log2 hne).mpr hbits
    omega

theorem cast_lowerEnd (hm : m.significand ≠ 0) :
    (m.lowerEnd : ℚ) = 4 * m.units - m.lowerReach := by
  rw [eq_sub_iff_add_eq]
  exact_mod_cast lowerEnd_add_lowerReach hm

theorem cast_upperEnd (m : Magnitude) : (m.upperEnd : ℚ) = 4 * m.units + 2 * 2 ^ m.shift := by
  rw [upperEnd_eq, ← cast_twoTo]
  push_cast
  rfl

theorem cast_lowerReach (m : Magnitude) : (m.lowerReach : ℚ) =
    if m.significand = twoTo 52 ∧ m.shift ≠ 0 then 2 ^ m.shift else 2 * 2 ^ m.shift := by
  rw [lowerReach, apply_ite Nat.cast, twoTo_succ m.shift, Nat.cast_mul, cast_twoTo, Nat.cast_ofNat]

/-- A magnitude catches what is rounded to it. -/
theorem catches_of_nearest? (hd : 0 < d) (hm : m.significand ≠ 0) (h : nearest? n d = some m) :
    m.Catches (n / d) := by
  obtain ⟨hbelow, habove, hodd⟩ := isAround_rounded n hd
  have hstep : (0 : ℚ) < 2 ^ roundedShift n d := by positivity
  have hquotient : 0 < roundedShift n d → (2 : ℚ) ^ (52 + roundedShift n d) ≤ unitsOf n d := by
    intro hpos
    refine le_trans ?_ (floor_unitsOf_le n d)
    exact_mod_cast twoTo_le_quotient hpos
  unfold Catches
  rw [mul_quarters, cast_lowerEnd hm, cast_upperEnd, cast_lowerReach, cast_units]
  rw [nearest?_eq] at h
  split at h
  case isTrue hcarry =>
    obtain ⟨hsignificand, hshift⟩ := ofParts?_eq_some h
    rw [hcarry, cast_twoTo] at hbelow habove
    rw [if_pos (by rw [hsignificand]; rfl), if_pos ⟨hsignificand, by omega⟩, hsignificand, hshift,
      cast_twoTo, pow_succ _ (roundedShift n d)]
    constructor <;> linarith
  case isFalse hcarry =>
    obtain ⟨hsignificand, hshift⟩ := ofParts?_eq_some h
    rw [hsignificand, hshift]
    split
    case isTrue heven =>
      refine ⟨?_, by linarith⟩
      split
      case isTrue hleast =>
        -- the least significand has the nearer neighbour below, but nothing below it is rounded here
        have hunits := hquotient (Nat.pos_of_ne_zero hleast.2)
        rw [pow_add] at hunits
        rw [hleast.1, cast_twoTo]
        linarith
      case isFalse => linarith
    case isFalse hne =>
      obtain ⟨hbelow', habove'⟩ := hodd hne
      rw [if_neg fun hleast => hne (by rw [hleast.1]; rfl)]
      constructor <;> linarith

/-- What a magnitude catches lies around its significand, unless it lies below the least
significand of a shift. -/
theorem Catches.isAround (hm : m.significand ≠ 0) (h : m.Catches (n / d)) :
    IsAround m.significand m.shift (unitsOf n d) := by
  have hstep : (0 : ℚ) < 2 ^ m.shift := by positivity
  have hreach : (m.lowerReach : ℚ) ≤ 2 * 2 ^ m.shift := by
    rw [← cast_twoTo]
    exact_mod_cast m.lowerReach_le
  obtain ⟨hlow, hhigh⟩ := h.le
  rw [mul_quarters, cast_lowerEnd hm, cast_units] at hlow
  rw [mul_quarters, cast_upperEnd, cast_units] at hhigh
  refine ⟨by linarith, by linarith, fun hodd => ?_⟩
  rw [Catches, if_neg hodd, mul_quarters, cast_lowerEnd hm, cast_upperEnd, cast_units] at h
  constructor <;> linarith

theorem significand_le (m : Magnitude) : (m.significand : ℚ) ≤ 2 ^ 53 - 1 := by
  have hlt : m.significand + 1 ≤ twoTo 53 := m.significand_lt
  rw [le_sub_iff_add_le, ← cast_twoTo]
  exact_mod_cast hlt

/-- Only the least significand of a shift catches what lies below all numbers of that shift, and
this is no more than half a step of the shift before. -/
theorem Catches.below_binade {k : Nat} (hshift : m.shift = k + 1) (h : m.Catches (n / d))
    (hbelow : unitsOf n d < 2 ^ (52 + m.shift)) :
    m.significand = twoTo 52 ∧ (2 ^ 53 - 1 / 2) * 2 ^ k ≤ unitsOf n d := by
  have hnormal : twoTo 52 ≤ m.significand := m.canonical.resolve_left (by omega)
  have hm : m.significand ≠ 0 := ((twoTo_pos 52).trans_le hnormal).ne'
  have hstep : (0 : ℚ) < 2 ^ k := by positivity
  obtain ⟨hlow, -⟩ := h.le
  rw [mul_quarters, cast_lowerEnd hm, cast_lowerReach, cast_units, hshift,
    pow_succ _ k] at hlow
  rw [hshift, pow_add, pow_succ _ k] at hbelow
  have hleast : m.significand = twoTo 52 := by
    by_contra hne
    have hmore : (2 : ℚ) ^ 52 + 1 ≤ m.significand := by
      have hlt : twoTo 52 + 1 ≤ m.significand := lt_of_le_of_ne hnormal (Ne.symm hne)
      rw [← cast_twoTo]
      exact_mod_cast hlt
    rw [if_neg fun hleast => hne hleast.1] at hlow
    nlinarith
  refine ⟨hleast, ?_⟩
  rw [if_pos ⟨hleast, by omega⟩, hleast, cast_twoTo] at hlow
  linarith

/-- What a magnitude catches is rounded to it. -/
theorem nearest?_of_catches (hd : 0 < d) (hm : m.significand ≠ 0) (h : m.Catches (n / d)) :
    nearest? n d = some m := by
  rw [nearest?_eq]
  by_cases hbits : m.shift = 0 ∨ (2 : ℚ) ^ (52 + m.shift) ≤ unitsOf n d
  case pos =>
    have haround := h.isAround hm
    have hshift : roundedShift n d = m.shift := by
      apply roundedShift_eq hd hbits
      have hstep : (0 : ℚ) < 2 ^ m.shift := by positivity
      have hsignificand := mul_le_mul_of_nonneg_right m.significand_le hstep.le
      have habove := haround.above
      rw [pow_add]
      linarith
    have hrounded : rounded n d = m.significand := by
      apply IsAround.rounded_eq hd
      rwa [hshift]
    rw [hrounded, hshift, if_neg m.significand_lt.ne]
    exact dif_pos ⟨m.significand_lt, m.shift_le, m.canonical⟩
  case neg =>
    -- below the least significand the steps are half as wide, and rounding carries
    rw [not_or, not_le] at hbits
    obtain ⟨k, hk⟩ := Nat.exists_eq_succ_of_ne_zero hbits.1
    obtain ⟨hleast, hclose⟩ := h.below_binade hk hbits.2
    have hstep : (0 : ℚ) < 2 ^ k := by positivity
    have hbelow : unitsOf n d < 2 ^ (53 + k) := by
      have hbelow := hbits.2
      rwa [hk, Nat.succ_eq_add_one, show 52 + (k + 1) = 53 + k by omega] at hbelow
    have hshift : roundedShift n d = k := by
      apply roundedShift_eq hd (.inr _) hbelow
      rw [pow_add]
      linarith
    have hrounded : rounded n d = twoTo 53 := by
      apply IsAround.rounded_eq hd
      rw [hshift]
      rw [pow_add] at hbelow
      refine ⟨?_, ?_, fun hodd => absurd rfl hodd⟩
      · rwa [cast_twoTo]
      · rw [cast_twoTo]
        linarith
    rw [if_pos hrounded, hshift, ← hleast, ← Nat.succ_eq_add_one, ← hk]
    exact dif_pos ⟨m.significand_lt, m.shift_le, m.canonical⟩

theorem nearest?_eq_some_iff (hd : 0 < d) (hm : m.significand ≠ 0) :
    nearest? n d = some m ↔ m.Catches (n / d) :=
  ⟨catches_of_nearest? hd hm, nearest?_of_catches hd hm⟩

end Nearest

end Magnitude

end DocMatch
