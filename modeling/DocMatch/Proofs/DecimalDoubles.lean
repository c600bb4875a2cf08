import DocMatch.Proofs.RoundedSteps
/-!
The double that a decimal is read as.  A whole decimal is rounded once.  Any other one goes through
a sum that is scaled, rounded to an integer and scaled back, which leaves it next to the value; of
at most 50 bits and 22 places, that integer is the coefficient, and the quotient is rounded once.
-/

namespace DocMatch

namespace Magnitude

variable {a : Magnitude} {c : Nat}

/-- The nearest integer is at most a half away. -/
theorem abs_nearestNat_sub_le (a : Magnitude) : |(a.nearestNat : ℚ) - a.value| ≤ 1 / 2 := by
  obtain ⟨one, hone⟩ : ∃ one, one = unitsPerOne := ⟨_, rfl⟩
  have hpos : (0 : ℚ) < one := hone ▸ unitsPerOne_pos
  have hunits : (a.units : ℚ) = a.value * one := by
    rw [value, hone, div_mul_cancel₀ _ unitsPerOne_pos.ne']
  have hlow := Nat.div_mul_le_self (2 * a.units + one) (2 * one)
  have hhigh := Nat.lt_div_mul_add (a := 2 * a.units + one)
    (Nat.mul_pos Nat.two_pos (Nat.cast_pos.mp hpos) : 0 < 2 * one)
  rw [nearestNat, ← hone]
  generalize (2 * a.units + one) / (2 * one) = n at hlow hhigh
  have hlow' : (n : ℚ) * (2 * one) ≤ 2 * a.units + one := by
    exact_mod_cast hlow
  have hhigh' : 2 * (a.units : ℚ) + one < n * (2 * one) + 2 * one := by
    exact_mod_cast hhigh
  rw [hunits] at hlow' hhigh'
  have hbelow : (n : ℚ) ≤ a.value + 1 / 2 :=
    le_of_mul_le_mul_right (by linarith) (mul_pos two_pos hpos)
  have habove : a.value ≤ n + 1 / 2 :=
    le_of_mul_le_mul_right (by linarith) (mul_pos two_pos hpos)
  rw [abs_le]
  constructor <;> linarith

/-- A natural number less than a half away is the nearest. -/
theorem nearestNat_eq (h : |a.value - c| < 1 / 2) : a.nearestNat = c := by
  by_contra hne
  have hhalf := half_le_abs_sub (r := a.nearestNat) (c := c) (s := a.value)
    (by exact_mod_cast a.abs_nearestNat_sub_le) (by omega)
  rw [abs_sub_comm] at hhalf
  exact absurd h (not_lt.mpr (by exact_mod_cast hhalf))

/-- No natural number is twice as near as the nearest. -/
theorem abs_nearestNat_sub_natCast_le (a : Magnitude) (c : Nat) :
    |(a.nearestNat : ℚ) - c| ≤ 2 * |a.value - c| := by
  have htriangle := abs_sub_le (a.nearestNat : ℚ) a.value c
  have hnearest := abs_sub_le_of_half (r := a.nearestNat) (s := a.value)
    (by exact_mod_cast a.abs_nearestNat_sub_le) c
  rw [abs_sub_comm ((c : Int) : ℚ)] at hnearest
  push_cast at hnearest
  linarith

/-- Rounding what is near an integer to an integer stays near. -/
theorem nearestNat_isNear (h : IsNear 4 a.value c) : IsNear 9 a.nearestNat c := by
  have hc : (0 : ℚ) ≤ c := Nat.cast_nonneg c
  have hdistance : |(a.nearestNat : ℚ) - c| ≤ 2 * ((roundingRatio ^ 4 - 1) * c) :=
    (a.abs_nearestNat_sub_natCast_le c).trans
      (mul_le_mul_of_nonneg_left (h.abs_sub_le hc) zero_le_two)
  obtain ⟨hlow, hhigh⟩ := abs_le.mp hdistance
  have habove : 1 + 2 * (roundingRatio ^ 4 - 1) ≤ roundingRatio ^ 9 := by
    norm_num [roundingRatio]
  have hbelow : 1 ≤ (1 - 2 * (roundingRatio ^ 4 - 1)) * roundingRatio ^ 9 := by
    norm_num [roundingRatio]
  constructor
  · calc (a.nearestNat : ℚ) ≤ c * (1 + 2 * (roundingRatio ^ 4 - 1)) := by linarith
      _ ≤ c * roundingRatio ^ 9 := mul_le_mul_of_nonneg_left habove hc
  · calc (c : ℚ) = c * 1 := (mul_one _).symm
      _ ≤ c * ((1 - 2 * (roundingRatio ^ 4 - 1)) * roundingRatio ^ 9) :=
        mul_le_mul_of_nonneg_left hbelow hc
      _ = c * (1 - 2 * (roundingRatio ^ 4 - 1)) * roundingRatio ^ 9 := (mul_assoc _ _ _).symm
      _ ≤ a.nearestNat * roundingRatio ^ 9 :=
        mul_le_mul_of_nonneg_right (by linarith) (ratio_pos 9).le

end Magnitude

namespace Decimal

open Magnitude (IsModerate ofNat? exists_ofNat? exists_power)

variable {c s j : Nat}

theorem twoTo_96_lt {n : Nat} (h : n < twoTo 96) : n < twoTo 1023 :=
  h.trans_le (twoTo_le_twoTo (by decide))

/-- A positive coefficient over a power of ten is moderate. -/
theorem isModerate_div (hpos : 0 < c) (hc : c < twoTo 96) (hs : s ≤ 28) :
    IsModerate (c / 10 ^ s : ℚ) := by
  have hone : (1 : ℚ) ≤ c := Nat.one_le_cast.mpr hpos
  have hbound : (c : ℚ) ≤ 2 ^ 96 := by
    rw [← cast_twoTo]
    exact Nat.cast_le.mpr hc.le
  have hpower : (10 : ℚ) ^ s ≤ 10 ^ 28 := pow_le_pow_right₀ (by norm_num) hs
  have hone' : (1 : ℚ) ≤ 10 ^ s := one_le_pow₀ (by norm_num)
  constructor
  · calc (1 / 2 ^ 200 : ℚ) ≤ 1 / 10 ^ 28 := by norm_num
      _ ≤ 1 / 10 ^ s := one_div_le_one_div_of_le (by positivity) hpower
      _ ≤ c / 10 ^ s := div_le_div_of_nonneg_right hone (by positivity)
  · calc (c / 10 ^ s : ℚ) ≤ c := div_le_self (Nat.cast_nonneg c) hone'
      _ ≤ 2 ^ 96 := hbound
      _ ≤ 2 ^ 200 := by norm_num

/-- A coefficient over a power of ten is not next to zero. -/
theorem zero_or_normal (hc : c < twoTo 96) (hs : s ≤ 28) :
    (c / 10 ^ s : ℚ) = 0 ∨ 1 / 2 ^ 1022 ≤ (c / 10 ^ s : ℚ) := by
  rcases Nat.eq_zero_or_pos c with rfl | hpos
  · exact .inl (by rw [Nat.cast_zero, zero_div])
  · exact .inr (isModerate_div hpos hc hs).normal

theorem isModerate_natCast (hpos : 0 < c) (hc : c < twoTo 96) : IsModerate (c : ℚ) := by
  simpa using isModerate_div hpos hc (Nat.zero_le 28)

theorem pos_of_fraction (h : 0 < c % tenTo s) : s ≠ 0 ∧ 0 < c := by
  constructor
  · rintro rfl
    rw [show tenTo 0 = 1 from rfl, Nat.mod_one] at h
    exact absurd h (lt_irrefl 0)
  · exact h.trans_le (Nat.mod_le _ _)

/-- Whole part and fraction of a coefficient. -/
theorem parts_eq (c s : Nat) :
    ((c / tenTo s : Nat) : ℚ) * 10 ^ s + (c % tenTo s : Nat) = c := by
  rw [← cast_tenTo]
  exact_mod_cast Nat.div_add_mod' c (tenTo s)

/-- The sum of whole part and fraction, scaled, is next to the coefficient.  With the parts and the
power converted in `j` roundings each, at most one, three more are made. -/
theorem exists_scaled {whole part power : Magnitude} (hj : j ≤ 1) (hc : c < twoTo 96) (hs : s ≤ 28)
    (hwhole : IsNear j whole.value (c / tenTo s : Nat))
    (hpart : IsNear j part.value (c % tenTo s : Nat)) (hpower : IsNear j power.value (10 ^ s))
    (hfraction : 0 < c % tenTo s) :
    ∃ fraction sum scaled, part.div? power = some fraction ∧ fraction.significand ≠ 0 ∧
      whole.add? fraction = some sum ∧ sum.mul? power = some scaled ∧
      IsNear (j + 3) scaled.value c := by
  have hten : (0 : ℚ) < 10 ^ s := by positivity
  have hpositive : 0 < power.value := hpower.pos hten
  have hrest : c % tenTo s < twoTo 96 := (Nat.mod_le _ _).trans_lt hc
  have hcoefficient : 0 < c := (pos_of_fraction hfraction).2
  have hvalue : ((c / tenTo s : Nat) : ℚ) + (c % tenTo s : Nat) / 10 ^ s = c / 10 ^ s := by
    rw [eq_div_iff hten.ne', add_mul, div_mul_cancel₀ _ hten.ne', parts_eq]
  -- the fraction is off by the rounding of its quotient, as its power is taken back later
  have hratio := hpart.div hpower (Nat.cast_nonneg _) hten
  obtain ⟨fraction, hdiv, -, hround⟩ := Magnitude.exists_div? hratio (by omega)
    (isModerate_div hfraction hrest hs) hpositive
  have hnear := hround.trans hratio
  have hfractionPos := hnear.pos (isModerate_div hfraction hrest hs).pos
  have hback : IsNear (j + 1) (fraction.value * power.value) (c % tenTo s : Nat) := by
    have hscaled := hround.mul (.refl 0 hpositive.le)
      (div_nonneg (hpart.nonneg (Nat.cast_nonneg _)) hpositive.le) hpositive.le
    rw [div_mul_cancel₀ _ hpositive.ne'] at hscaled
    exact (hscaled.trans hpart).mono (Nat.cast_nonneg _) (by omega)
  have hwholeScaled : IsNear (j + 1) (whole.value * power.value)
      (((c / tenTo s : Nat) : ℚ) * 10 ^ s) :=
    (hwhole.mul hpower (Nat.cast_nonneg _) hten.le).mono (by positivity) (by omega)
  -- so is the sum, and then it is rounded, scaled and rounded again
  have hsumNear : IsNear 3 (whole.value + fraction.value) (c / 10 ^ s) := by
    rw [← hvalue]
    exact (hwhole.mono (Nat.cast_nonneg _) (by omega)).add
      (hnear.mono (by positivity) (by omega))
  obtain ⟨sum, hadd, -, hsum⟩ := Magnitude.exists_add? hsumNear (by omega)
    (isModerate_div hcoefficient hc hs)
  have hsumScaled : IsNear (j + 2) (sum.value * power.value) c := by
    have hexact := hsum.mul (.refl 0 hpositive.le)
      (hsumNear.nonneg (by positivity)) hpositive.le
    rw [add_mul] at hexact
    have hboth := hwholeScaled.add hback
    rw [parts_eq] at hboth
    exact (hexact.trans hboth).mono (Nat.cast_nonneg _) (by omega)
  obtain ⟨scaled, hmul, -, hscaled⟩ := Magnitude.exists_mul? hsumScaled (by omega)
    (isModerate_natCast hcoefficient hc)
  refine ⟨fraction, sum, scaled, hdiv, ?_, hadd, hmul, ?_⟩
  · rw [Ne, ← Magnitude.value_eq_zero_iff]
    exact hfractionPos.ne'
  · exact (hscaled.trans hsumScaled).mono (Nat.cast_nonneg _) (by omega)

/-- What is left when the fraction is not zero. -/
theorem magnitude?_eq {whole part power fraction sum scaled : Magnitude} (hs : s ≠ 0)
    (hpower : ofNat? (tenTo s) = some power) (hwhole : ofNat? (c / tenTo s) = some whole)
    (hpart : ofNat? (c % tenTo s) = some part) (hdiv : part.div? power = some fraction)
    (hfraction : fraction.significand ≠ 0) (hadd : whole.add? fraction = some sum)
    (hmul : sum.mul? power = some scaled) :
    magnitude? c s = (ofNat? scaled.nearestNat).bind fun m => m.div? power := by
  rw [magnitude?, if_neg hs, hpower, Option.bind_eq_bind, Option.bind_some, hwhole,
    Option.bind_some, hpart, Option.bind_some, hdiv, Option.bind_some, if_neg hfraction, hadd,
    Option.bind_some, hmul, Option.bind_some]

/-- Nothing divided by a power is nothing. -/
theorem div?_zero {power : Magnitude} (hpower : 0 < power.value) :
    Magnitude.zero.div? power = some .zero := by
  have hunits : 0 < power.units := by
    rw [Magnitude.value, div_pos_iff_of_pos_right Magnitude.unitsPerOne_pos] at hpower
    exact_mod_cast hpower
  have hzero : Magnitude.zero.units = 0 := Nat.zero_mul _
  rw [Magnitude.div?, hzero]
  obtain ⟨m, hm⟩ := Magnitude.exists_nearest? hunits (Nat.mul_pos hunits (twoTo_pos 1023))
  have hrounded : m.IsRounded 0 := ⟨_, _, hunits, hm, by rw [Nat.cast_zero, zero_div]⟩
  rw [hm, hrounded.eq_zero]

/-- A whole number is rounded once. -/
theorem magnitude?_whole (hdvd : tenTo s ∣ c) (hc : c < twoTo 96) (hs : s ≤ 28) :
    ∃ m, magnitude? c s = some m ∧ m.IsRounded (c / 10 ^ s) := by
  by_cases hzero : s = 0
  · obtain ⟨m, hm, hrounded, -⟩ := exists_ofNat? (twoTo_96_lt hc)
    refine ⟨m, by rw [magnitude?, if_pos hzero, hm], ?_⟩
    rwa [hzero, pow_zero, div_one]
  obtain ⟨power, hpower, hpos, -⟩ := exists_power (n := s) (by omega)
  obtain ⟨m, hm, hrounded, -⟩ :=
    exists_ofNat? (twoTo_96_lt ((Nat.div_le_self c (tenTo s)).trans_lt hc))
  obtain ⟨part, hpart, hpartZero, -⟩ := exists_ofNat? (twoTo_96_lt (twoTo_pos 96))
  rw [Nat.cast_zero] at hpartZero
  refine ⟨m, ?_, ?_⟩
  · have hnothing : Magnitude.zero.significand = 0 := rfl
    rw [magnitude?, if_neg hzero, hpower, Option.bind_eq_bind, Option.bind_some, hm,
      Option.bind_some, Nat.mod_eq_zero_of_dvd hdvd, hpart, Option.bind_some, hpartZero.eq_zero,
      div?_zero hpos, Option.bind_some, if_pos hnothing, Option.pure_def]
  · rwa [Nat.cast_div hdvd (by exact_mod_cast (tenTo_pos s).ne'), cast_tenTo] at hrounded

/-- A number with a fraction comes out next to its value. -/
theorem magnitude?_fraction (hfraction : 0 < c % tenTo s) (hc : c < twoTo 96) (hs : s ≤ 28) :
    ∃ m, magnitude? c s = some m ∧ IsNear 12 m.value (c / 10 ^ s) := by
  obtain ⟨hzero, hcoefficient⟩ := pos_of_fraction hfraction
  obtain ⟨power, hpower, hpos, hpowerNear, -⟩ := exists_power (n := s) (by omega)
  obtain ⟨whole, hwhole, -, hwholeNear⟩ :=
    exists_ofNat? (twoTo_96_lt ((Nat.div_le_self c (tenTo s)).trans_lt hc))
  obtain ⟨part, hpart, -, hpartNear⟩ :=
    exists_ofNat? (twoTo_96_lt ((Nat.mod_le c (tenTo s)).trans_lt hc))
  obtain ⟨fraction, sum, scaled, hdiv, hne, hadd, hmul, hscaled⟩ :=
    exists_scaled le_rfl hc hs hwholeNear hpartNear hpowerNear hfraction
  have hnearest := Magnitude.nearestNat_isNear hscaled
  have hfits : scaled.nearestNat < twoTo 1023 := by
    have hbound : (scaled.nearestNat : ℚ) < twoTo 97 := by
      calc (scaled.nearestNat : ℚ) ≤ c * roundingRatio ^ 9 := hnearest.le
        _ < twoTo 96 * 2 := by
          have hratio : roundingRatio ^ 9 ≤ 2 := by norm_num [roundingRatio]
          exact mul_lt_mul (Nat.cast_lt.mpr hc) hratio (ratio_pos 9) (Nat.cast_nonneg _)
        _ = twoTo 97 := by rw [cast_twoTo, cast_twoTo, ← pow_succ]
    exact (Nat.cast_lt.mp hbound).trans_le (twoTo_le_twoTo (by decide))
  obtain ⟨m, hm, -, hround⟩ := exists_ofNat? hfits
  have hquotient : IsNear 11 (m.value / power.value) (c / 10 ^ s) :=
    (hround.trans hnearest).div hpowerNear (Nat.cast_nonneg _) (by positivity)
  obtain ⟨result, hresult, -, hnear⟩ := Magnitude.exists_div? hquotient (by omega)
    (isModerate_div hcoefficient hc hs) hpos
  refine ⟨result, ?_, hnear.trans hquotient⟩
  rw [magnitude?_eq hzero hpower hwhole hpart hdiv hne hadd hmul, hm, Option.bind_some, hresult]

/-- Of at most 50 bits and 22 places, a number with a fraction is rounded once. -/
theorem magnitude?_short (hfraction : 0 < c % tenTo s) (hc : c ≤ twoTo 50) (hs : s ≤ 22) :
    ∃ m, magnitude? c s = some m ∧ m.IsRounded (c / 10 ^ s) := by
  obtain ⟨hzero, hcoefficient⟩ := pos_of_fraction hfraction
  have hbits : ∀ {n}, n ≤ c → n < twoTo 53 :=
    fun hn => (hn.trans hc).trans_lt (by decide)
  have hexact : ∀ {n}, n ≤ c → ∃ m, ofNat? n = some m ∧ m.value = n := by
    intro n hn
    obtain ⟨m, hm, -⟩ := exists_ofNat? ((hbits hn).trans_le (twoTo_le_twoTo (by decide)))
    exact ⟨m, hm, Magnitude.value_ofNat?_small (hbits hn) hm⟩
  have hrefl : ∀ {m : Magnitude} {q : ℚ}, m.value = q → IsNear 0 m.value q := by
    rintro m _ rfl
    exact .refl 0 m.value_nonneg
  obtain ⟨power, hpower, hpos, -, hpowerValue⟩ := exists_power (n := s) (by omega)
  obtain ⟨whole, hwhole, hwholeValue⟩ := hexact (Nat.div_le_self c (tenTo s))
  obtain ⟨part, hpart, hpartValue⟩ := hexact (Nat.mod_le c (tenTo s))
  have hc' : c < twoTo 96 := hc.trans_lt (by decide)
  obtain ⟨fraction, sum, scaled, hdiv, hne, hadd, hmul, hscaled⟩ :=
    exists_scaled (Nat.zero_le 1) hc' (by omega) (hrefl hwholeValue) (hrefl hpartValue)
      (hrefl (hpowerValue hs)) hfraction
  -- three roundings of so few bits do not reach half way to the next integer
  have hnearest : scaled.nearestNat = c := by
    apply Magnitude.nearestNat_eq
    have hbound : (c : ℚ) ≤ 2 ^ 50 := by
      rw [← cast_twoTo]
      exact Nat.cast_le.mpr hc
    have hratio : 0 ≤ roundingRatio ^ 3 - 1 := sub_nonneg.mpr (one_le_ratio 3)
    calc |scaled.value - c| ≤ (roundingRatio ^ 3 - 1) * c := hscaled.abs_sub_le (Nat.cast_nonneg c)
      _ ≤ (roundingRatio ^ 3 - 1) * 2 ^ 50 := mul_le_mul_of_nonneg_left hbound hratio
      _ < 1 / 2 := by norm_num [roundingRatio]
  obtain ⟨m, hm, hvalue⟩ := hexact (le_refl c)
  have hquotient : m.value / power.value = c / 10 ^ s := by
    rw [hvalue, hpowerValue hs]
  have hmoderate := isModerate_div hcoefficient hc' (show s ≤ 28 by omega)
  have hsame : IsNear 0 (m.value / power.value) (c / 10 ^ s) := by
    rw [hquotient]
    exact .refl 0 hmoderate.pos.le
  obtain ⟨result, hresult, hrounded, -⟩ :=
    Magnitude.exists_div? hsame (by omega) hmoderate hpos
  rw [hquotient] at hrounded
  refine ⟨result, ?_, hrounded⟩
  rw [magnitude?_eq hzero hpower hwhole hpart hdiv hne hadd hmul, hnearest, hm, Option.bind_some,
    hresult]

/-- What a coefficient over a power of ten is read as. -/
theorem exists_magnitude? (hc : c < twoTo 96) (hs : s ≤ 28) :
    ∃ m, magnitude? c s = some m ∧ IsNear 12 m.value (c / 10 ^ s) ∧
      (tenTo s ∣ c ∨ c ≤ twoTo 50 ∧ s ≤ 22 → m.IsRounded (c / 10 ^ s)) := by
  rcases Nat.eq_zero_or_pos (c % tenTo s) with hwhole | hfraction
  · obtain ⟨m, hm, hrounded⟩ := magnitude?_whole (Nat.dvd_of_mod_eq_zero hwhole) hc hs
    have hnear := hrounded.isNear (zero_or_normal hc hs)
    exact ⟨m, hm, hnear.mono (by positivity) (by omega), fun _ => hrounded⟩
  · obtain ⟨m, hm, hnear⟩ := magnitude?_fraction hfraction hc hs
    refine ⟨m, hm, hnear, ?_⟩
    rintro (hdvd | ⟨hbits, hplaces⟩)
    · exact absurd (Nat.mod_eq_zero_of_dvd hdvd) hfraction.ne'
    · obtain ⟨m', hm', hrounded⟩ := magnitude?_short hfraction hbits hplaces
      rw [hm] at hm'
      cases hm'
      exact hrounded

/-- Whether a decimal can be held with a number of zeros after its places. -/
def CanHold (d : Decimal) (zeros : Nat) : Prop :=
  d.scale + zeros ≤ maxScale ∧ d.coefficient.natAbs * tenTo zeros < coefficientBound

/-- Whether a decimal has few enough digits, with the zeros it is held with, to be rounded once. -/
def IsShort (d : Decimal) (zeros : Nat) : Prop :=
  d.coefficient.natAbs * tenTo zeros ≤ twoTo 50 ∧ d.scale + zeros ≤ 22

variable {d : Decimal} {zeros : Nat}

theorem canHold_zero (d : Decimal) : d.CanHold 0 :=
  ⟨d.scale_le, (Nat.mul_one _).trans_lt d.coefficient_lt⟩

theorem abs_value (d : Decimal) : |d.value| = d.coefficient.natAbs / 10 ^ d.scale := by
  rw [value, abs_div, abs_of_pos (by positivity : (0 : ℚ) < 10 ^ d.scale), Nat.cast_natAbs,
    Int.cast_abs]

theorem signed_abs_value (d : Decimal) : signed (d.coefficient < 0) |d.value| = d.value := by
  rw [abs_value, signed_div, signed_decide_lt_zero, value]

/-- Zeros after the places do not change the value. -/
theorem abs_value_eq (d : Decimal) (zeros : Nat) : |d.value| =
    (d.coefficient.natAbs * tenTo zeros : Nat) / 10 ^ (d.scale + zeros) := by
  rw [abs_value, pow_add, Nat.cast_mul, cast_tenTo, mul_div_mul_right _ _ (by positivity)]

/-- However many zeros a decimal is held with, it is read as a double next to it, and as the
nearest one if it is whole, or has few digits with the zeros. -/
theorem exists_toDoubleWith (h : d.CanHold zeros) :
    ∃ m, d.toDoubleWith zeros = .finite (d.coefficient < 0) m ∧ IsNear 12 m.value |d.value| ∧
      (d.scale = 0 ∨ d.IsShort zeros → m.IsRounded |d.value|) := by
  obtain ⟨m, hm, hnear, hrounded⟩ := exists_magnitude? h.2 h.1
  rw [← abs_value_eq] at hnear hrounded
  refine ⟨m, by rw [toDoubleWith, hm], hnear, fun hexact => hrounded (hexact.imp_left ?_)⟩
  intro hwhole
  rw [hwhole, Nat.zero_add]
  exact Dvd.intro_left _ rfl

theorem toDoubleWith_isWithin (h : d.CanHold zeros) :
    (d.toDoubleWith zeros).IsWithin 49 d.value := by
  obtain ⟨m, hm, hnear, -⟩ := exists_toDoubleWith h
  rw [hm]
  exact Double.isWithin_of_isNear hnear d.signed_abs_value (by norm_num [roundingRatio])

theorem toDoubleWith_isNearest (h : d.CanHold zeros) (hexact : d.scale = 0 ∨ d.IsShort zeros) :
    (d.toDoubleWith zeros).IsNearest d.value := by
  obtain ⟨m, hm, -, hrounded⟩ := exists_toDoubleWith h
  have hnearest := (hrounded hexact).isNearest.mirror (decide (d.coefficient < 0))
  rwa [signed_abs_value, ← hm] at hnearest

end Decimal

end DocMatch
