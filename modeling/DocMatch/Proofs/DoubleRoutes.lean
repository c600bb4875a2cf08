import DocMatch.Proofs.DoubleTexts
import DocMatch.Proofs.JsonNumbers
/-!
The two ways of a double into a document, as a number and as a JSON number.  Each goes by a text,
and the decimal reader rounds the positional text to 28 places but refuses a text with a greater
exponent.  So a double below `10 ^ -28` is rounded on one way and kept on the other.  A decimal that
is kept is read as a double next to the one that it came from, and as that one if it is short.
-/

namespace DocMatch

namespace Decimal

variable {s : Scientific} {c : Nat}

/-- What is left without trailing zeros has the same value. -/
theorem stripZeros_spec (c scale : Nat) :
    (stripZeros c scale).1 ≤ c ∧ (stripZeros c scale).2 ≤ scale ∧
      ((stripZeros c scale).2 = 0 ∨ ¬ 10 ∣ (stripZeros c scale).1) ∧
      ((stripZeros c scale).1 / 10 ^ (stripZeros c scale).2 : ℚ) = c / 10 ^ scale := by
  induction scale generalizing c with
  | zero => exact ⟨le_rfl, le_rfl, .inl rfl, rfl⟩
  | succ scale ih =>
    rw [stripZeros]
    split
    case isTrue hzero =>
      obtain ⟨hle, hscale, hcanonical, hvalue⟩ := ih (c / 10)
      obtain ⟨k, rfl⟩ := Nat.dvd_of_mod_eq_zero hzero
      rw [Nat.mul_div_cancel_left k (by decide)] at hle hscale hcanonical hvalue ⊢
      refine ⟨hle.trans (Nat.le_mul_of_pos_left k (by decide)), Nat.le_succ_of_le hscale,
        hcanonical, ?_⟩
      rw [hvalue, pow_succ, mul_comm (10 ^ scale : ℚ), Nat.cast_mul, Nat.cast_ofNat,
        mul_div_mul_left _ _ (by norm_num)]
    case isFalse hdigit =>
      exact ⟨le_rfl, le_rfl, .inr fun hdvd => hdigit (Nat.mod_eq_zero_of_dvd hdvd), rfl⟩

/-- A coefficient and a scale that fit make a decimal of their value. -/
theorem exists_ofScaled? (negative : Bool) {scale : Nat} (hc : c < coefficientBound)
    (hscale : scale ≤ maxScale) :
    ∃ d, ofScaled? negative c scale = some d ∧ d.value = signed negative (c / 10 ^ scale) := by
  obtain ⟨hle, hscale', hcanonical, hvalue⟩ := stripZeros_spec c scale
  obtain ⟨c', scale', hstrip⟩ : ∃ c' scale', stripZeros c scale = (c', scale') := ⟨_, _, rfl⟩
  rw [hstrip] at hle hscale' hcanonical hvalue
  have habs : (if negative then -(c' : Int) else c').natAbs = c' := by
    split
    · exact Int.natAbs_neg c'
    · rfl
  refine ⟨⟨if negative then -(c' : Int) else c', scale', ?_, hscale'.trans hscale, ?_⟩, ?_, ?_⟩
  · rw [habs]
    exact hle.trans_lt hc
  · rwa [habs]
  · rw [ofScaled?, hstrip]
    exact dif_pos ⟨by rw [habs]; exact hle.trans_lt hc, hscale'.trans hscale, by rwa [habs]⟩
  · rw [value, ← hvalue]
    cases negative with
    | false => rfl
    | true =>
      simp only [if_true, signed, Int.cast_neg, Int.cast_natCast, neg_div]

/-- A number of at most 28 places that fits is kept. -/
theorem exists_ofScientific? (hc : s.coefficient < coefficientBound) (hplaces : -28 ≤ s.exponent)
    (hfits : |s.value| < 2 ^ 96) : ∃ d, ofScientific? s = some d ∧ d.value = s.value := by
  have hmaxScale : maxScale = 28 := rfl
  by_cases hwhole : 0 ≤ s.exponent
  · obtain ⟨k, hk⟩ := Int.eq_ofNat_of_zero_le hwhole
    rw [Scientific.abs_value, hk, zpow_natCast, ← cast_tenTo, ← cast_twoTo] at hfits
    have hcoefficient : s.coefficient * tenTo k < coefficientBound := by
      exact_mod_cast hfits
    obtain ⟨d, hd, hvalue⟩ := exists_ofScaled? s.negative hcoefficient (Nat.zero_le _)
    refine ⟨d, ?_, ?_⟩
    · rw [ofScientific?, if_pos hwhole, show s.exponent.toNat = k by omega, hd]
    · rw [hvalue, pow_zero, div_one, Scientific.value, hk, zpow_natCast, Nat.cast_mul, cast_tenTo]
  · obtain ⟨k, hk⟩ := Int.eq_ofNat_of_zero_le (show 0 ≤ -s.exponent by omega)
    have hexponent : s.exponent = -k := by omega
    have hscale : s.exponent.natAbs = k := by omega
    obtain ⟨d, hd, hvalue⟩ := exists_ofScaled? s.negative hc (show k ≤ maxScale by omega)
    refine ⟨d, ?_, ?_⟩
    · rw [ofScientific?, if_neg hwhole, hscale, if_pos (by omega), hd]
    · rw [hvalue, Scientific.value, hexponent, zpow_neg, zpow_natCast, div_eq_mul_inv]

theorem roundPlaces_le (n places : Nat) : roundPlaces n places ≤ n + 1 := by
  have hpos := tenTo_pos places
  have hle := Nat.le_mul_of_pos_left n hpos
  apply Nat.div_le_of_le_mul
  rw [Nat.mul_add, Nat.mul_one]
  omega

/-- What is less than a half of the last place is rounded to nothing. -/
theorem roundPlaces_eq_zero_iff {n places : Nat} (hplaces : places ≠ 0) :
    roundPlaces n places = 0 ↔ 2 * n < tenTo places := by
  obtain ⟨k, rfl⟩ := Nat.exists_eq_succ_of_ne_zero hplaces
  have hpos := tenTo_pos k
  rw [roundPlaces, Nat.div_eq_zero_iff_lt (tenTo_pos _), Nat.succ_eq_add_one, tenTo_succ]
  omega

theorem roundPlaces_le_one {n places : Nat} (h : n < tenTo places) : roundPlaces n places ≤ 1 := by
  rw [roundPlaces, ← Nat.lt_succ_iff, Nat.div_lt_iff_lt_mul (tenTo_pos places)]
  omega

/-- A number of more places is rounded to 28. -/
theorem exists_rounded (hc : s.coefficient + 1 < coefficientBound) {k : Nat}
    (hplaces : s.exponent = -(maxScale + k : Nat)) (hk : k ≠ 0) :
    ∃ d, ofScientific? s = some d ∧
      d.value = signed s.negative (roundPlaces s.coefficient k / 10 ^ 28) := by
  have hrounded := (roundPlaces_le s.coefficient k).trans_lt hc
  obtain ⟨d, hd, hvalue⟩ := exists_ofScaled? s.negative hrounded le_rfl
  refine ⟨d, ?_, hvalue⟩
  rw [ofScientific?, if_neg (by omega), show s.exponent.natAbs = maxScale + k by omega,
    if_neg (by omega), Nat.add_sub_cancel_left, hd]

/-- A whole number that does not fit is not. -/
theorem ofScientific?_eq_none (hwhole : 0 ≤ s.exponent) (hgreat : 2 ^ 96 ≤ |s.value|) :
    ofScientific? s = none := by
  obtain ⟨k, hk⟩ := Int.eq_ofNat_of_zero_le hwhole
  rw [Scientific.abs_value, hk, zpow_natCast, ← cast_tenTo, ← cast_twoTo] at hgreat
  rw [ofScientific?, if_pos hwhole, show s.exponent.toNat = k by omega]
  apply ofScaled?_whole
  rw [not_lt]
  exact_mod_cast hgreat

theorem sign_of_value (d : Decimal) {negative : Bool} {v : ℚ} (h : d.value = signed negative v)
    (hv : 0 < v) : decide (d.coefficient < 0) = negative := by
  have hscale : (0 : ℚ) < 10 ^ d.scale := by positivity
  rw [value, div_eq_iff hscale.ne', signed] at h
  cases negative with
  | false =>
    have hpos : (0 : ℚ) < d.coefficient := by
      rw [h]
      exact mul_pos hv hscale
    exact decide_eq_false (not_lt.mpr (Int.cast_pos.mp hpos).le)
  | true =>
    have hneg : (d.coefficient : ℚ) < 0 := by
      rw [h]
      exact mul_neg_of_neg_of_pos (neg_neg_of_pos hv) hscale
    exact decide_eq_true (Int.cast_lt_zero.mp hneg)

/-- A decimal has no more digits than a quotient of its value. -/
theorem digits_le_of_abs_value {d : Decimal} {p : Nat} (h : |d.value| = c / 10 ^ p) :
    d.coefficient.natAbs ≤ c ∧ d.scale ≤ p := by
  have hcross : d.coefficient.natAbs * tenTo p = c * tenTo d.scale := by
    rw [abs_value, div_eq_div_iff (by positivity) (by positivity), ← cast_tenTo, ← cast_tenTo] at h
    exact_mod_cast h
  have hsplit : ∀ j k, tenTo (j + k) = tenTo k * tenTo j := fun j k => by
    rw [Nat.mul_comm]
    exact Nat.pow_add 10 j k
  rcases Nat.lt_or_ge p d.scale with hgreater | hle
  · -- then the coefficient ends in a zero
    obtain ⟨k, hk⟩ := Nat.exists_eq_add_of_lt hgreater
    rw [hk, Nat.add_assoc, hsplit, ← Nat.mul_assoc] at hcross
    have hcoefficient := Nat.eq_of_mul_eq_mul_right (tenTo_pos p) hcross
    have hdigit : ¬ 10 ∣ d.coefficient.natAbs := d.canonical.resolve_left (by omega)
    rw [hcoefficient, tenTo_succ, ← Nat.mul_assoc] at hdigit
    exact absurd (Nat.dvd_mul_left 10 _) hdigit
  · obtain ⟨k, rfl⟩ := Nat.exists_eq_add_of_le hle
    rw [hsplit, ← Nat.mul_assoc] at hcross
    have hcoefficient := Nat.eq_of_mul_eq_mul_right (tenTo_pos d.scale) hcross
    exact ⟨(Nat.le_mul_of_pos_right _ (tenTo_pos k)).trans_eq hcoefficient, hle⟩

end Decimal

namespace Magnitude

variable {m : Magnitude}

theorem abs_shown (negative : Bool) (m : Magnitude) :
    |(m.shown negative).value| = m.shortest.1 * 10 ^ m.shortest.2 :=
  Scientific.abs_value _

theorem abs_shown_places {k : Nat} (h : m.shortest.2 = -(28 + k : Nat)) (negative : Bool) :
    |(m.shown negative).value| = m.shortest.1 / 10 ^ k / 10 ^ 28 := by
  rw [abs_shown, h, zpow_neg, zpow_natCast, pow_add, ← div_eq_mul_inv, div_div, mul_comm]

theorem shortest_pos (hm : m.significand ≠ 0) : 0 < m.shortest.1 :=
  (isShortest_shortest hm).coefficient_pos hm

theorem abs_shown_pos (hm : m.significand ≠ 0) (negative : Bool) :
    0 < |(m.shown negative).value| := by
  rw [abs_shown]
  exact mul_pos (Nat.cast_pos.mpr (shortest_pos hm)) (by positivity)

/-- The exponent of the first digit tells the size. -/
theorem abs_shown_lt (negative : Bool) (m : Magnitude) :
    |(m.shown negative).value| < 10 ^ (m.leading + 1) := by
  have hdigits : m.shortest.1 < tenTo (Nat.toDigits 10 m.shortest.1).length :=
    (Nat.length_toDigits_le_iff (by decide) Nat.length_toDigits_pos).mp le_rfl
  have hexponent : m.leading + 1 =
      ((Nat.toDigits 10 m.shortest.1).length : Int) + m.shortest.2 := by
    unfold leading
    omega
  rw [abs_shown, hexponent, zpow_add₀ (by norm_num), zpow_natCast, ← cast_tenTo]
  exact mul_lt_mul_of_pos_right (Nat.cast_lt.mpr hdigits) (by positivity)

theorem le_abs_shown (hm : m.significand ≠ 0) (negative : Bool) :
    10 ^ m.leading ≤ |(m.shown negative).value| := by
  obtain ⟨k, hk⟩ := Nat.exists_eq_succ_of_ne_zero
    (Nat.length_toDigits_pos (b := 10) (n := m.shortest.1)).ne'
  have hexponent : m.leading = (k : Int) + m.shortest.2 := by
    unfold leading
    omega
  have hdigits : tenTo k ≤ m.shortest.1 := by
    cases k with
    | zero => exact shortest_pos hm
    | succ k =>
      by_contra hlt
      have hlength := (Nat.length_toDigits_le_iff (by decide) (Nat.succ_pos k)).mpr (not_le.mp hlt)
      omega
  rw [abs_shown, hexponent, zpow_add₀ (by norm_num), zpow_natCast, ← cast_tenTo]
  exact mul_le_mul_of_nonneg_right (Nat.cast_le.mpr hdigits) (by positivity)

/-- A number of more places is no multiple of `10 ^ -28`, nor is one that is read as the same
double. -/
theorem not_catches_of_places (hm : m.significand ≠ 0) (h : m.shortest.2 < -28) (k : Nat) :
    ¬ m.Catches (k / 10 ^ 28) := by
  intro hk
  have hgrid : m.Catches (k * 10 ^ (-28 : Int)) := by
    rwa [zpow_neg, ← div_eq_mul_inv]
  have hexponent := (isShortest_shortest hm).le_exponent hgrid
  omega

/-- Whether the shown number is a multiple of `10 ^ -28` is told by its exponent. -/
theorem exists_multiple_iff (hm : m.significand ≠ 0) (negative : Bool) :
    (∃ n : Int, (m.shown negative).value * 10 ^ 28 = n) ↔ -28 ≤ m.shortest.2 := by
  constructor
  · rintro ⟨n, hn⟩
    by_contra hlt
    apply not_catches_of_places hm (not_le.mp hlt) n.natAbs
    have habs : ((n.natAbs : Nat) : ℚ) / 10 ^ 28 = |(m.shown negative).value| := by
      have hpower : (0 : ℚ) < 10 ^ 28 := by positivity
      rw [Nat.cast_natAbs, Int.cast_abs, ← hn, abs_mul, abs_of_pos hpower,
        mul_div_cancel_right₀ _ hpower.ne']
    rw [habs, abs_shown]
    exact (isShortest_shortest hm).catches
  · intro hplaces
    obtain ⟨k, hk⟩ := Int.eq_ofNat_of_zero_le (show 0 ≤ m.shortest.2 + 28 by omega)
    have hpower : (10 : ℚ) ^ m.shortest.2 * 10 ^ 28 = 10 ^ k := by
      rw [← zpow_natCast (10 : ℚ) 28, ← zpow_add₀ (by norm_num), ← zpow_natCast (10 : ℚ) k]
      exact congrArg ((10 : ℚ) ^ ·) hk
    have hwhole : (m.shortest.1 * 10 ^ m.shortest.2 : ℚ) * 10 ^ 28 =
        (m.shortest.1 * tenTo k : Nat) := by
      rw [mul_assoc, hpower, Nat.cast_mul, cast_tenTo]
    cases negative with
    | false => exact ⟨(m.shortest.1 * tenTo k : Nat), hwhole⟩
    | true =>
      refine ⟨-(m.shortest.1 * tenTo k : Nat), ?_⟩
      rw [Int.cast_neg, Int.cast_natCast, ← hwhole, ← neg_mul]
      rfl

/-- A number of at most 28 places other than zero is no less than `10 ^ -28`. -/
theorem le_abs_shown_of_places (hm : m.significand ≠ 0) (hplaces : -28 ≤ m.shortest.2)
    (negative : Bool) : 1 / 10 ^ 28 ≤ |(m.shown negative).value| := by
  have hone : (1 : ℚ) ≤ m.shortest.1 := by
    exact_mod_cast shortest_pos hm
  rw [abs_shown]
  calc (1 / 10 ^ 28 : ℚ) = 10 ^ (-28 : Int) := by norm_num
    _ ≤ 10 ^ m.shortest.2 := zpow_le_zpow_right₀ (by norm_num) hplaces
    _ ≤ m.shortest.1 * 10 ^ m.shortest.2 := le_mul_of_one_le_left (by positivity) hone

/-- The magnitude that `10 ^ -28` is read as.  It is not the nearest one. -/
def leastRead : Magnitude :=
  ⟨8920298079412250, 928, by decide, by decide, .inr (by decide)⟩

theorem magnitude?_least : Decimal.magnitude? 1 28 = some leastRead := by
  decide +kernel

theorem lt_of_catches_leastRead {q : ℚ} (h : leastRead.Catches q) : 1 / 10 ^ 28 < q := by
  have hends : quartersPerOne < leastRead.lowerEnd * tenTo 28 := by
    decide +kernel
  have hends' : (quartersPerOne : ℚ) < leastRead.lowerEnd * 10 ^ 28 := by
    rw [← cast_tenTo]
    exact_mod_cast hends
  rw [div_lt_iff₀ (by positivity)]
  refine lt_of_mul_lt_mul_right ?_ quartersPerOne_pos.le
  calc (1 : ℚ) * quartersPerOne < leastRead.lowerEnd * 10 ^ 28 := by rwa [one_mul]
    _ ≤ q * quartersPerOne * 10 ^ 28 := mul_le_mul_of_nonneg_right h.le.1 (by positivity)
    _ = q * 10 ^ 28 * quartersPerOne := mul_right_comm _ _ _

end Magnitude

namespace Number

open Magnitude (leastRead)

variable {m : Magnitude} {negative : Bool} {d : Decimal}

theorem value?_finite_ne_zero (hm : m.significand ≠ 0) :
    (Number.double (.finite negative m)).value? ≠ some 0 := by
  intro hzero
  have hvalue : signed negative m.value = 0 := Option.some.inj hzero
  have habs := abs_signed negative m.value
  rw [hvalue, abs_zero, eq_comm, abs_eq_zero] at habs
  exact hm (Magnitude.value_eq_zero_iff.mp habs)

theorem ofDouble_numericEq_self (negative : Bool) (m : Magnitude) :
    (ofDouble (.finite negative m)).numericEq (ofDouble (.finite negative m)) = true := by
  rw [ofDouble_finite]
  cases Decimal.ofScientific? (m.shown negative) with
  | some d => exact beq_self_eq_true d
  | none => exact Double.numericEq_self (x := .finite negative m) rfl

/-- A double of at most 28 places becomes the decimal that is shown, if that is in range. -/
theorem ofDouble_exact (hplaces : -28 ≤ m.shortest.2)
    (hfits : |(m.shown negative).value| < 2 ^ 96) :
    ∃ d, Decimal.ofScientific? (m.shown negative) = some d ∧
      ofDouble (.finite negative m) = .decimal d ∧ d.value = (m.shown negative).value := by
  obtain ⟨d, hd, hvalue⟩ := Decimal.exists_ofScientific? (s := m.shown negative)
    m.shortest_fits hplaces hfits
  exact ⟨d, hd, by rw [ofDouble_finite, hd, Option.elim_some], hvalue⟩

/-- A double beyond the range of decimals stays a double. -/
theorem ofDouble_great (hgreat : 2 ^ 96 ≤ |(m.shown negative).value|) :
    0 ≤ m.shortest.2 ∧ ofDouble (.finite negative m) = .double (.finite negative m) := by
  have hwhole : 0 ≤ m.shortest.2 := by
    by_contra hneg
    have hcoefficient : (m.shortest.1 : ℚ) < 2 ^ 96 := by
      rw [← cast_twoTo]
      exact_mod_cast m.shortest_fits
    have hpower : (10 : ℚ) ^ m.shortest.2 ≤ 1 :=
      zpow_le_one_of_nonpos₀ (by norm_num) (by omega)
    rw [Magnitude.abs_shown] at hgreat
    have hle := mul_le_of_le_one_right (Nat.cast_nonneg m.shortest.1) hpower
    linarith
  refine ⟨hwhole, ?_⟩
  rw [ofDouble_finite, Decimal.ofScientific?_eq_none hwhole hgreat, Option.elim_none]

/-- A double of more places becomes the decimal that it is rounded to. -/
theorem ofDouble_rounded (hplaces : m.shortest.2 < -28) (negative : Bool) :
    ∃ d k, m.shortest.2 = -(28 + k : Nat) ∧ k ≠ 0 ∧ ofDouble (.finite negative m) = .decimal d ∧
      d.value = signed negative (Decimal.roundPlaces m.shortest.1 k / 10 ^ 28) := by
  obtain ⟨k, hk⟩ := Int.eq_ofNat_of_zero_le (show 0 ≤ -28 - m.shortest.2 by omega)
  have hexponent : m.shortest.2 = -(28 + k : Nat) := by omega
  have hfits : m.shortest.1 + 1 < Decimal.coefficientBound :=
    (Nat.succ_le_of_lt m.shortest_lt).trans_lt (by decide)
  obtain ⟨d, hd, hvalue⟩ := Decimal.exists_rounded (s := m.shown negative) hfits hexponent
    (by omega)
  exact ⟨d, k, hexponent, by omega, by rw [ofDouble_finite, hd, Option.elim_some], hvalue⟩

/-- From `10 ^ -28` on a JSON number becomes what the double becomes, below it stays the double. -/
theorem ofJson_finite (hm : m.significand ≠ 0) (negative : Bool) :
    ofJson (.double (.finite negative m)) =
      if 1 / 10 ^ 28 ≤ |(m.shown negative).value| then ofDouble (.finite negative m)
      else .double (.finite negative m) := by
  have hpower : (1 / 10 ^ 28 : ℚ) = 10 ^ (-28 : Int) := by norm_num
  have hlow := Magnitude.le_abs_shown hm negative
  have hhigh := m.abs_shown_lt negative
  rw [hpower]
  cases hpositional : Layout.json.isPositional m.leading with
  | true =>
    have hrange : -5 ≤ m.leading ∧ m.leading ≤ 15 := by
      simpa [Layout.isPositional, Layout.json] using hpositional
    have hplaces : -28 ≤ m.shortest.2 := by
      have hlength := m.length_shortest
      have hleading : m.leading =
          m.shortest.2 + (Nat.toDigits 10 m.shortest.1).length - 1 := rfl
      omega
    have hfits : |(m.shown negative).value| < 2 ^ 96 :=
      calc |(m.shown negative).value| < 10 ^ (m.leading + 1) := hhigh
        _ ≤ 10 ^ (16 : Int) := zpow_le_zpow_right₀ (by norm_num) (by omega)
        _ < 2 ^ 96 := by norm_num
    obtain ⟨d, hd, hdouble, -⟩ := ofDouble_exact hplaces hfits
    have hsize : 10 ^ (-28 : Int) ≤ |(m.shown negative).value| :=
      (zpow_le_zpow_right₀ (by norm_num) (by omega)).trans hlow
    rw [ofJson_positional hpositional hd, if_pos hsize, hdouble]
  | false =>
    rw [ofJson_scientific hpositional]
    have hmaxScale : Decimal.maxScale = 28 := rfl
    rcases lt_or_ge m.leading (-28) with hsmall | hsize
    · have hbelow : |(m.shown negative).value| < 10 ^ (-28 : Int) :=
        hhigh.trans_le (zpow_le_zpow_right₀ (by norm_num) (by omega))
      rw [if_neg (by omega), if_neg (not_le.mpr hbelow)]
    · have hsize' : 10 ^ (-28 : Int) ≤ |(m.shown negative).value| :=
        (zpow_le_zpow_right₀ (by norm_num) hsize).trans hlow
      rw [if_pos hsize']
      split
      case isTrue => rfl
      case isFalse hbeyond =>
        have hgreat : (2 : ℚ) ^ 96 ≤ |(m.shown negative).value| :=
          calc (2 : ℚ) ^ 96 ≤ 10 ^ (29 : Int) := by norm_num
            _ ≤ 10 ^ m.leading := zpow_le_zpow_right₀ (by norm_num) (by omega)
            _ ≤ |(m.shown negative).value| := hlow
        exact (ofDouble_great hgreat).2.symm

/-- Whether a number is a double or the decimal that the double's shortest digits write. -/
def Keeps (n : Number) (negative : Bool) (m : Magnitude) : Prop :=
  n = .double (.finite negative m) ∨ ∃ d, n = .decimal d ∧ d.value = (m.shown negative).value

/-- A double is kept exactly if it has at most 28 places. -/
theorem ofDouble_keeps_iff (hm : m.significand ≠ 0) (negative : Bool) :
    (ofDouble (.finite negative m)).Keeps negative m ↔ -28 ≤ m.shortest.2 := by
  rcases lt_or_ge m.shortest.2 (-28) with hplaces | hplaces
  · obtain ⟨d, k, -, -, hdouble, hvalue⟩ := ofDouble_rounded hplaces negative
    refine iff_of_false ?_ (not_le.mpr hplaces)
    rw [hdouble]
    rintro (hstays | ⟨d', hsame, hkept⟩)
    · cases hstays
    · cases hsame
      have hcatches := (Magnitude.isShortest_shortest hm).catches
      rw [← Magnitude.abs_shown negative, ← hkept, hvalue, abs_signed,
        abs_of_nonneg (by positivity)] at hcatches
      exact Magnitude.not_catches_of_places hm hplaces _ hcatches
  · refine iff_of_true ?_ hplaces
    rcases lt_or_ge |(m.shown negative).value| (2 ^ 96) with hfits | hgreat
    · obtain ⟨d, -, hdouble, hvalue⟩ := ofDouble_exact hplaces hfits
      exact .inr ⟨d, hdouble, hvalue⟩
    · exact .inl (ofDouble_great hgreat).2

/-- The value of a decimal that a double shows is rounded to that double. -/
theorem isRounded_of_shown (hvalue : d.value = (m.shown negative).value) :
    m.IsRounded |d.value| := by
  by_cases hm : m.significand = 0
  · obtain ⟨zero, -, hzero, -⟩ := Magnitude.exists_ofNat? (n := 0) (twoTo_pos 1023)
    rw [Nat.cast_zero] at hzero
    rw [hvalue, Magnitude.abs_shown, Magnitude.shortest, if_pos hm, Nat.cast_zero, zero_mul,
      Magnitude.eq_zero_of_significand hm, ← hzero.eq_zero]
    exact hzero
  · have hcatches := (Magnitude.isShortest_shortest hm).catches
    rw [← Magnitude.abs_shown negative, ← hvalue, Decimal.abs_value, ← cast_tenTo] at hcatches
    rw [Decimal.abs_value, ← cast_tenTo]
    exact ⟨_, _, tenTo_pos _, Magnitude.nearest?_of_catches (tenTo_pos _) hm hcatches, rfl⟩

/-- Such a decimal has the sign of the double, or is zero. -/
theorem signed_of_shown (hvalue : d.value = (m.shown negative).value) :
    signed (d.coefficient < 0) m.value = signed negative m.value := by
  by_cases hm : m.significand = 0
  · rw [Magnitude.value_eq_zero_iff.mpr hm]
    cases negative <;> cases decide (d.coefficient < 0) <;> simp [signed]
  · have hpos := Magnitude.abs_shown_pos hm negative
    rw [Magnitude.abs_shown] at hpos
    have hsign : decide (d.coefficient < 0) = negative := d.sign_of_value hvalue hpos
    rw [hsign]

/-- Such a decimal is read as a double next to that one. -/
theorem toDouble_isWithin_of_shown (hvalue : d.value = (m.shown negative).value) :
    d.toDouble.IsWithin 49 (signed negative m.value) := by
  obtain ⟨m', hread, hnear, -⟩ := Decimal.exists_toDoubleWith d.canHold_zero
  have hnormal : |d.value| = 0 ∨ 1 / 2 ^ 1022 ≤ |d.value| := by
    rw [Decimal.abs_value]
    exact Decimal.zero_or_normal d.coefficient_lt d.scale_le
  have habs : |signed (d.coefficient < 0) m.value| = m.value := by
    rw [abs_signed, abs_of_nonneg m.value_nonneg]
  have hclose : IsNear 13 m'.value |signed (d.coefficient < 0) m.value| := by
    rw [habs]
    exact hnear.trans ((isRounded_of_shown hvalue).isNear hnormal).symm
  rw [Decimal.toDouble, hread, ← signed_of_shown hvalue]
  exact Double.isWithin_of_isNear hclose (by rw [habs]) (by norm_num [roundingRatio])

/-- Such a decimal is whole or short if the digits that are shown are. -/
theorem isShort_of_shown (hvalue : d.value = (m.shown negative).value)
    (hdigits : 0 ≤ m.shortest.2 ∨ m.shortest.1 ≤ twoTo 50 ∧ -22 ≤ m.shortest.2) :
    d.scale = 0 ∨ d.IsShort 0 := by
  have habs : |d.value| = m.shortest.1 * 10 ^ m.shortest.2 := by
    rw [hvalue, Magnitude.abs_shown]
  by_cases hwhole : 0 ≤ m.shortest.2
  · obtain ⟨k, hk⟩ := Int.eq_ofNat_of_zero_le hwhole
    have hquotient : |d.value| = (m.shortest.1 * tenTo k : Nat) / 10 ^ 0 := by
      rw [habs, hk, zpow_natCast, pow_zero, div_one, Nat.cast_mul, cast_tenTo]
    exact .inl (Nat.le_zero.mp (Decimal.digits_le_of_abs_value hquotient).2)
  · obtain ⟨hbits, hplaces⟩ := hdigits.resolve_left hwhole
    obtain ⟨k, hk⟩ := Int.eq_ofNat_of_zero_le (show 0 ≤ -m.shortest.2 by omega)
    have hquotient : |d.value| = m.shortest.1 / 10 ^ k := by
      rw [habs, show m.shortest.2 = -k by omega, zpow_neg, zpow_natCast, div_eq_mul_inv]
    obtain ⟨hcoefficient, hscale⟩ := Decimal.digits_le_of_abs_value hquotient
    exact .inr ⟨(Nat.mul_one _).trans_le (hcoefficient.trans hbits), by omega⟩

/-- Such a decimal is the same number as the double if the digits that are shown are whole or
short. -/
theorem numericEq_of_shown (hvalue : d.value = (m.shown negative).value)
    (hdigits : 0 ≤ m.shortest.2 ∨ m.shortest.1 ≤ twoTo 50 ∧ -22 ≤ m.shortest.2) :
    d.toDouble.numericEq (.finite negative m) = true := by
  obtain ⟨m', hread, -, hrounded⟩ := Decimal.exists_toDoubleWith d.canHold_zero
  have hsame := (hrounded (isShort_of_shown hvalue hdigits)).unique (isRounded_of_shown hvalue)
  rw [Decimal.toDouble, hread, hsame]
  exact (Double.numericEq_iff rfl rfl).mpr (signed_of_shown hvalue)

/-- What keeps a double is read as one next to it. -/
theorem toDouble_of_keeps {n : Number} (h : n.Keeps negative m) :
    n.toDouble.IsWithin 49 (signed negative m.value) ∧
    (0 ≤ m.shortest.2 ∨ m.shortest.1 ≤ twoTo 50 ∧ -22 ≤ m.shortest.2 →
      n.numericEq (.double (.finite negative m)) = true) := by
  rcases h with rfl | ⟨d, rfl, hvalue⟩
  · refine ⟨⟨_, rfl, ?_⟩, fun _ => Double.numericEq_self (x := .finite negative m) rfl⟩
    rw [sub_self, abs_zero]
    positivity
  · exact ⟨toDouble_isWithin_of_shown hvalue, numericEq_of_shown hvalue⟩

theorem toDouble_least (h : |d.value| = 1 / 10 ^ 28) :
    d.toDouble = .finite (d.coefficient < 0) leastRead := by
  obtain ⟨hcoefficient, -⟩ : d.coefficient.natAbs ≤ 1 ∧ d.scale ≤ 28 :=
    Decimal.digits_le_of_abs_value (by rw [h, Nat.cast_one])
  have hpos : d.coefficient.natAbs ≠ 0 := by
    intro hzero
    rw [Decimal.abs_value, hzero, Nat.cast_zero, zero_div] at h
    norm_num at h
  have hone : d.coefficient.natAbs = 1 := by omega
  have hscale : d.scale = 28 := by
    rw [Decimal.abs_value, hone, Nat.cast_one, one_div, one_div, inv_inj] at h
    exact pow_right_injective₀ (by norm_num) (by norm_num) h
  have hzeros : tenTo 0 = 1 := rfl
  rw [Decimal.toDouble, Decimal.toDoubleWith, hone, hscale, hzeros, Nat.mul_one, Nat.add_zero,
    Magnitude.magnitude?_least]

/-- Below `10 ^ -28` a double becomes a decimal that is read as another double. -/
theorem ofDouble_small (hm : m.significand ≠ 0)
    (hsmall : |(m.shown negative).value| < 1 / 10 ^ 28) :
    ¬ (ofDouble (.finite negative m)).numericEq (.double (.finite negative m)) = true := by
  have hplaces : m.shortest.2 < -28 := by
    by_contra hge
    exact absurd hsmall (not_lt.mpr (Magnitude.le_abs_shown_of_places hm (not_lt.mp hge) negative))
  obtain ⟨d, k, hexponent, hk, hdouble, hvalue⟩ := ofDouble_rounded hplaces negative
  have hrounded : Decimal.roundPlaces m.shortest.1 k ≤ 1 := by
    apply Decimal.roundPlaces_le_one
    have hbelow := hsmall
    rw [Magnitude.abs_shown_places hexponent, div_lt_div_iff_of_pos_right (by positivity),
      div_lt_one (by positivity), ← cast_tenTo] at hbelow
    exact_mod_cast hbelow
  have habs : |d.value| = Decimal.roundPlaces m.shortest.1 k / 10 ^ 28 := by
    rw [hvalue, abs_signed, abs_of_nonneg (by positivity)]
  obtain ⟨m', hread, hnear, -⟩ := Decimal.exists_toDoubleWith d.canHold_zero
  intro hequal
  rw [hdouble] at hequal
  have hsame : m' = m := by
    have hdoubles : d.toDouble.numericEq (.finite negative m) = true := hequal
    rw [Decimal.toDouble, hread, Double.numericEq, Bool.and_eq_true, beq_iff_eq] at hdoubles
    exact hdoubles.1
  subst hsame
  rcases Nat.le_one_iff_eq_zero_or_eq_one.mp hrounded with hzero | hone
  · -- zero is read as zero
    rw [habs, hzero, Nat.cast_zero, zero_div] at hnear
    have hvanishes : m'.value ≤ 0 := hnear.le.trans_eq (zero_mul _)
    exact hm (Magnitude.value_eq_zero_iff.mp (hvanishes.antisymm m'.value_nonneg))
  · -- the least decimal is read as a double above it
    have hleast : m' = leastRead := by
      have hdouble := toDouble_least (d := d) (by rw [habs, hone, Nat.cast_one])
      rw [Decimal.toDouble, hread] at hdouble
      exact (Double.finite.inj hdouble).2
    have hcatches := (Magnitude.isShortest_shortest hm).catches
    rw [← Magnitude.abs_shown negative, hleast] at hcatches
    rw [hleast] at hsmall
    exact absurd hsmall (Magnitude.lt_of_catches_leastRead hcatches).not_gt

/-- A double becomes zero exactly if it is less than a half of the last place. -/
theorem ofDouble_zero_iff (hm : m.significand ≠ 0) :
    (ofDouble (.finite negative m)).value? = some 0 ↔
      2 * |(m.shown negative).value| < 1 / 10 ^ 28 := by
  have hpos := Magnitude.abs_shown_pos hm negative
  rcases lt_or_ge m.shortest.2 (-28) with hplaces | hplaces
  · obtain ⟨d, k, hexponent, hk, hdouble, hvalue⟩ := ofDouble_rounded hplaces negative
    have hzero : d.value = 0 ↔ Decimal.roundPlaces m.shortest.1 k = 0 := by
      rw [← abs_eq_zero, hvalue, abs_signed, abs_eq_zero, div_eq_zero_iff,
        or_iff_left (by positivity), Nat.cast_eq_zero]
    rw [hdouble, value?, Option.some.injEq, hzero, Decimal.roundPlaces_eq_zero_iff hk,
      Magnitude.abs_shown_places hexponent, ← mul_div_assoc,
      div_lt_div_iff_of_pos_right (by positivity), ← mul_div_assoc, div_lt_one (by positivity),
      ← cast_tenTo]
    exact_mod_cast Iff.rfl
  · have hsize := Magnitude.le_abs_shown_of_places hm hplaces negative
    refine iff_of_false ?_ (by linarith)
    rcases lt_or_ge |(m.shown negative).value| (2 ^ 96) with hfits | hgreat
    · obtain ⟨d, -, hdouble, hvalue⟩ := ofDouble_exact hplaces hfits
      rw [hdouble, value?, Option.some.injEq, hvalue]
      exact abs_pos.mp hpos
    · rw [(ofDouble_great hgreat).2]
      exact value?_finite_ne_zero hm

/-- Both zeros become the decimal zero. -/
theorem zero_routes (negative : Bool) :
    ∃ d, ofDouble (.finite negative .zero) = .decimal d ∧
      ofJson (.double (.finite negative .zero)) = .decimal d ∧ d.value = 0 := by
  obtain ⟨d, hd⟩ : ∃ d : Decimal, d = ⟨0, 0, by decide, by decide, .inl rfl⟩ := ⟨_, rfl⟩
  refine ⟨d, ?_, ?_, ?_⟩
  · rw [hd]
    cases negative <;> decide +kernel
  · rw [hd]
    cases negative <;> decide +kernel
  · rw [hd, Decimal.value, Int.cast_zero, zero_div]

end Number

theorem sameAs_ways_in (x : Double) :
    (Value.number (.ofDouble x)).sameAs (.ofJson (.number (.double x))) =
      (Number.ofDouble x).numericEq (.ofJson (.double x)) := by
  rw [Value.ofJson, Value.sameAs]

/-- The two ways of a double.  It is what its shortest digits are read as.  The ways agree exactly
for zero and from `10 ^ -28` on.  As a number a double is kept exactly if it has at most 28 places,
and becomes zero exactly if it is less than a half of the last; as a JSON number it is kept below
`10 ^ -28` too.  What is kept is read as a double next to the one that came in, and is the same
number if its digits are whole or few. -/
theorem double_ways_in (negative : Bool) (m : Magnitude) :
    Double.ofScientific (m.shown negative) = .finite negative m ∧
    ((Value.number (.ofDouble (.finite negative m))).sameAs
        (.ofJson (.number (.double (.finite negative m)))) = true ↔
      (m.shown negative).value = 0 ∨ 1 / 10 ^ 28 ≤ |(m.shown negative).value|) ∧
    ((Number.ofDouble (.finite negative m)).Keeps negative m ↔
      ∃ n : Int, (m.shown negative).value * 10 ^ 28 = n) ∧
    ((Number.ofJson (.double (.finite negative m))).Keeps negative m ↔
      (∃ n : Int, (m.shown negative).value * 10 ^ 28 = n) ∨
        |(m.shown negative).value| < 1 / 10 ^ 28) ∧
    ((Number.ofDouble (.finite negative m)).value? = some 0 ↔
      2 * |(m.shown negative).value| < 1 / 10 ^ 28) ∧
    ∀ n : Number, n.Keeps negative m →
      n.toDouble.IsWithin 49 (signed negative m.value) ∧
      (0 ≤ (m.shown negative).exponent ∨
          (m.shown negative).coefficient ≤ twoTo 50 ∧ -22 ≤ (m.shown negative).exponent →
        n.numericEq (.double (.finite negative m)) = true) := by
  refine ⟨Double.ofScientific_shown negative m, ?_⟩
  have hread := fun (n : Number) (h : n.Keeps negative m) => Number.toDouble_of_keeps h
  rw [sameAs_ways_in]
  by_cases hm : m.significand = 0
  · have hvalue : (m.shown negative).value = 0 := by
      rw [← abs_eq_zero, Magnitude.abs_shown, Magnitude.shortest, if_pos hm, Nat.cast_zero,
        zero_mul]
    obtain ⟨d, hdouble, hjson, hzero⟩ := Number.zero_routes negative
    have hmultiple : ∃ n : Int, (0 : ℚ) * 10 ^ 28 = n := ⟨0, by rw [zero_mul, Int.cast_zero]⟩
    have hkept : (Number.decimal d).Keeps negative m := .inr ⟨d, rfl, hzero.trans hvalue.symm⟩
    rw [← Magnitude.eq_zero_of_significand hm] at hdouble hjson
    rw [hvalue, hdouble, hjson]
    refine ⟨iff_of_true (beq_self_eq_true d) (.inl rfl), iff_of_true hkept hmultiple,
      iff_of_true hkept (.inl hmultiple), iff_of_true ?_ (by norm_num), hread⟩
    rw [Number.value?, hzero]
  · have hne : (m.shown negative).value ≠ 0 := abs_pos.mp (Magnitude.abs_shown_pos hm negative)
    have hkept := Number.ofDouble_keeps_iff hm negative
    rw [Magnitude.exists_multiple_iff hm, or_iff_right hne, Number.ofJson_finite hm]
    refine ⟨?_, hkept, ?_, Number.ofDouble_zero_iff hm, hread⟩
    · by_cases hsize : 1 / 10 ^ 28 ≤ |(m.shown negative).value|
      · rw [if_pos hsize]
        exact iff_of_true (Number.ofDouble_numericEq_self negative m) hsize
      · rw [if_neg hsize]
        exact iff_of_false (Number.ofDouble_small hm (not_le.mp hsize)) hsize
    · by_cases hsize : 1 / 10 ^ 28 ≤ |(m.shown negative).value|
      · rw [if_pos hsize, hkept, or_iff_left (not_lt.mpr hsize)]
      · rw [if_neg hsize]
        exact iff_of_true (.inl rfl) (.inr (not_le.mp hsize))

/-- Of more than 50 bits, a decimal that is kept need not be read as the double. -/
example : (Double.read? "31.245270191439438".toList).map
    (fun x => (Number.ofDouble x).numericEq (.double x)) = some false := by
  decide +kernel

/-- So not every double is the same both ways: `1e-30` becomes zero as a number and stays what it is
as a JSON number. -/
theorem small_double_becomes_zero :
    (∃ x d, Double.read? "1e-30".toList = some x ∧ x.numericEq (.ofScientific ⟨false, 0, 0⟩) = false ∧
      Number.ofDouble x = .decimal d ∧ d.coefficient = 0 ∧
      Value.ofJson (.number (.double x)) = .number (.double x) ∧
      (Value.number (.ofDouble x)).sameAs (.ofJson (.number (.double x))) = false) ∧
    ¬ ∀ negative m,
      (Value.number (.ofDouble (.finite negative m))).sameAs
        (.ofJson (.number (.double (.finite negative m)))) = true ∧
      (Number.ofDouble (.finite negative m)).numericEq (.double (.finite negative m)) = true ∧
      (Number.ofJson (.double (.finite negative m))).numericEq (.double (.finite negative m)) =
        true := by
  obtain ⟨m, hm⟩ : ∃ m : Magnitude, m = ⟨0x14484BFEEBC2A0, 922, by decide, by decide,
    .inr (by decide)⟩ := ⟨_, rfl⟩
  obtain ⟨d, hd⟩ : ∃ d : Decimal, d = ⟨0, 0, by decide, by decide, .inl rfl⟩ := ⟨_, rfl⟩
  have hread : Double.read? "1e-30".toList = some (.finite false m) := by
    rw [hm]
    decide +kernel
  have hnonzero : (Double.finite false m).numericEq (.ofScientific ⟨false, 0, 0⟩) = false := by
    rw [hm]
    decide +kernel
  have hdouble : Number.ofDouble (.finite false m) = .decimal d := by
    rw [hm, hd]
    decide +kernel
  have hjson : Number.ofJson (.double (.finite false m)) = .double (.finite false m) := by
    rw [hm]
    decide +kernel
  have hother : (Number.decimal d).numericEq (.double (.finite false m)) = false := by
    rw [hm, hd]
    decide +kernel
  have hsame : (Value.number (.ofDouble (.finite false m))).sameAs
      (.ofJson (.number (.double (.finite false m)))) = false := by
    rw [sameAs_ways_in, hdouble, hjson, hother]
  refine ⟨⟨_, d, hread, hnonzero, hdouble, congrArg Decimal.coefficient hd, ?_, hsame⟩,
    fun hall => ?_⟩
  · rw [Value.ofJson, hjson]
  · have htrue := (hall false m).1
    rw [hsame] at htrue
    cases htrue

end DocMatch
