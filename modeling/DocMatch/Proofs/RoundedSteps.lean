import DocMatch.Number.Arithmetic
import DocMatch.Proofs.RoundingIntervals
/-!
Numbers that are computed in rounded steps.  A rounding changes a number by a ratio of at most
`1 + 2 ^ -53`, and these ratios multiply up along the steps of a computation: products and
quotients add the numbers of roundings of their parts, sums take the greater one.
-/

namespace DocMatch

/-- The greatest ratio by which a rounding changes a number. -/
def roundingRatio : ℚ :=
  1 + 1 / 2 ^ 53

/-- Whether two numbers are no further apart than `k` roundings take a number. -/
structure IsNear (k : Nat) (x y : ℚ) : Prop where
  le : x ≤ y * roundingRatio ^ k
  ge : y ≤ x * roundingRatio ^ k

section Nearness

variable {j k : Nat} {x y z v w : ℚ}

theorem roundingRatio_pos : 0 < roundingRatio := by
  norm_num [roundingRatio]

theorem one_le_ratio (k : Nat) : 1 ≤ roundingRatio ^ k :=
  one_le_pow₀ (by norm_num [roundingRatio])

theorem ratio_pos (k : Nat) : 0 < roundingRatio ^ k :=
  pow_pos roundingRatio_pos k

namespace IsNear

theorem refl (k : Nat) (hx : 0 ≤ x) : IsNear k x x :=
  ⟨le_mul_of_one_le_right hx (one_le_ratio k), le_mul_of_one_le_right hx (one_le_ratio k)⟩

theorem symm (h : IsNear k x y) : IsNear k y x :=
  ⟨h.ge, h.le⟩

theorem nonneg (h : IsNear k x y) (hy : 0 ≤ y) : 0 ≤ x :=
  nonneg_of_mul_nonneg_left (hy.trans h.ge) (ratio_pos k)

theorem pos (h : IsNear k x y) (hy : 0 < y) : 0 < x :=
  pos_of_mul_pos_left (hy.trans_le h.ge) (ratio_pos k).le

theorem mono (h : IsNear j x y) (hy : 0 ≤ y) (hjk : j ≤ k) : IsNear k x y := by
  have hratio : roundingRatio ^ j ≤ roundingRatio ^ k :=
    pow_le_pow_right₀ (by norm_num [roundingRatio]) hjk
  exact ⟨h.le.trans (mul_le_mul_of_nonneg_left hratio hy),
    h.ge.trans (mul_le_mul_of_nonneg_left hratio (h.nonneg hy))⟩

theorem trans (hxy : IsNear j x y) (hyz : IsNear k y z) : IsNear (j + k) x z := by
  constructor
  · calc x ≤ y * roundingRatio ^ j := hxy.le
      _ ≤ z * roundingRatio ^ k * roundingRatio ^ j :=
        mul_le_mul_of_nonneg_right hyz.le (ratio_pos j).le
      _ = z * roundingRatio ^ (j + k) := by rw [pow_add]; ring
  · calc z ≤ y * roundingRatio ^ k := hyz.ge
      _ ≤ x * roundingRatio ^ j * roundingRatio ^ k :=
        mul_le_mul_of_nonneg_right hxy.ge (ratio_pos k).le
      _ = x * roundingRatio ^ (j + k) := by rw [pow_add]; ring

theorem mul (hxy : IsNear j x y) (hvw : IsNear k v w) (hy : 0 ≤ y) (hw : 0 ≤ w) :
    IsNear (j + k) (x * v) (y * w) := by
  constructor
  · calc x * v ≤ y * roundingRatio ^ j * (w * roundingRatio ^ k) :=
        mul_le_mul hxy.le hvw.le (hvw.nonneg hw) (mul_nonneg hy (ratio_pos j).le)
      _ = y * w * roundingRatio ^ (j + k) := by rw [pow_add]; ring
  · calc y * w ≤ x * roundingRatio ^ j * (v * roundingRatio ^ k) :=
        mul_le_mul hxy.ge hvw.ge hw (mul_nonneg (hxy.nonneg hy) (ratio_pos j).le)
      _ = x * v * roundingRatio ^ (j + k) := by rw [pow_add]; ring

theorem inv (h : IsNear k x y) (hy : 0 < y) : IsNear k x⁻¹ y⁻¹ := by
  have hx := h.pos hy
  constructor
  · rw [inv_mul_eq_div, le_div_iff₀ hy, inv_mul_eq_div, div_le_iff₀ hx, mul_comm]
    exact h.ge
  · rw [inv_mul_eq_div, le_div_iff₀ hx, inv_mul_eq_div, div_le_iff₀ hy, mul_comm]
    exact h.le

theorem div (hxy : IsNear j x y) (hvw : IsNear k v w) (hy : 0 ≤ y) (hw : 0 < w) :
    IsNear (j + k) (x / v) (y / w) := by
  rw [div_eq_mul_inv, div_eq_mul_inv]
  exact hxy.mul (hvw.inv hw) hy (inv_nonneg.mpr hw.le)

theorem add (hxy : IsNear k x y) (hvw : IsNear k v w) : IsNear k (x + v) (y + w) := by
  constructor
  · rw [add_mul]
    exact add_le_add hxy.le hvw.le
  · rw [add_mul]
    exact add_le_add hxy.ge hvw.ge

/-- What is near is off by a fraction only. -/
theorem abs_sub_le (h : IsNear k x y) (hy : 0 ≤ y) : |x - y| ≤ (roundingRatio ^ k - 1) * y := by
  have hx := h.nonneg hy
  have hone := one_le_ratio k
  have hle := h.le
  have hge := h.ge
  rw [abs_le]
  constructor
  · nlinarith
  · linarith

end IsNear

end Nearness

namespace Magnitude

variable {n d k : Nat} {a b m m' : Magnitude} {q y : ℚ}

/-- Whether a magnitude is what a number is rounded to. -/
def IsRounded (m : Magnitude) (q : ℚ) : Prop :=
  ∃ n d, 0 < d ∧ nearest? n d = some m ∧ q = n / d

theorem IsRounded.isNearest (h : m.IsRounded q) : (Double.finite false m).IsNearest q := by
  obtain ⟨n, d, hd, hm, rfl⟩ := h
  exact isNearest_of_nearest? hd hm

/-- The value of a magnitude is rounded to that magnitude. -/
theorem IsRounded.eq (h : m.IsRounded m'.value) : m = m' := by
  have hvalue := h.isNearest.value?_eq (y := .finite false m') rfl
  exact eq_of_value_eq (Option.some.inj hvalue)

theorem value_zero : zero.value = 0 :=
  value_eq_zero_iff.mpr rfl

theorem IsRounded.eq_zero (h : m.IsRounded 0) : m = zero := by
  rw [← value_zero] at h
  exact h.eq

/-- A number is rounded to one magnitude only, however it is given as a quotient. -/
theorem IsRounded.unique (h : m.IsRounded q) (h' : m'.IsRounded q) : m = m' := by
  by_cases hzero : m.significand = 0 ∧ m'.significand = 0
  · have hvalue := value_eq_zero_iff.mpr hzero.1
    exact eq_of_value_eq (hvalue.trans (value_eq_zero_iff.mpr hzero.2).symm)
  obtain ⟨n, d, hd, hm, rfl⟩ := h
  obtain ⟨n', d', hd', hm', hq⟩ := h'
  rcases not_and_or.mp hzero with hne | hne
  · have hcatches := catches_of_nearest? hd hne hm
    rw [hq] at hcatches
    rw [nearest?_of_catches hd' hne hcatches] at hm'
    exact Option.some.inj hm'
  · have hcatches := catches_of_nearest? hd' hne hm'
    rw [← hq] at hcatches
    rw [nearest?_of_catches hd hne hcatches] at hm
    exact (Option.some.inj hm).symm

/-- The step of a rounding is small beside what is rounded and beside what comes of it. -/
theorem twoTo_le_unitsOf (hd : 0 < d) (hq : (1 / 2 ^ 1022 : ℚ) ≤ n / d) :
    2 ^ 52 * 2 ^ roundedShift n d ≤ unitsOf n d ∧ (2 ^ 52 : ℚ) ≤ rounded n d := by
  have hleast : (2 ^ 52 : ℚ) ≤ unitsOf n d := by
    have hone : (unitsPerOne : ℚ) = 2 ^ 1074 := cast_twoTo 1074
    have hunits := mul_le_mul_of_nonneg_right hq unitsPerOne_pos.le
    have hquotient : (n / d : ℚ) * unitsPerOne = unitsOf n d := by
      rw [unitsOf, Nat.cast_mul, div_mul_eq_mul_div]
    rw [hquotient, hone] at hunits
    refine le_trans (le_of_eq ?_) hunits
    rw [div_mul_eq_mul_div, one_mul, eq_div_iff (by positivity), ← pow_add]
  have hbits : twoTo 52 * twoTo (roundedShift n d) ≤ n * unitsPerOne / d := by
    rcases Nat.eq_zero_or_pos (roundedShift n d) with hzero | hpos
    · rw [hzero]
      apply le_floor_unitsOf hd
      rwa [Nat.cast_mul, cast_twoTo, cast_twoTo, pow_zero, mul_one]
    · rw [← twoTo_add]
      exact twoTo_le_quotient hpos
  constructor
  · refine le_trans ?_ (floor_unitsOf_le n d)
    exact_mod_cast hbits
  · have hrounded : twoTo 52 ≤ rounded n d := by
      refine le_trans ?_ (div_le_roundHalfEven _ _)
      rw [← Nat.div_div_eq_div_mul, Nat.le_div_iff_mul_le (twoTo_pos _)]
      exact hbits
    exact_mod_cast hrounded

/-- A rounding of what is not next to zero is near. -/
theorem IsRounded.isNear (h : m.IsRounded q) (hq : q = 0 ∨ 1 / 2 ^ 1022 ≤ q) :
    IsNear 1 m.value q := by
  rcases hq with rfl | hq
  · rw [h.eq_zero, value_zero]
    exact .refl 1 le_rfl
  obtain ⟨n, d, hd, hm, rfl⟩ := h
  obtain ⟨hunits, hrounded⟩ := twoTo_le_unitsOf hd hq
  have haround := isAround_rounded n hd
  have hstep : (0 : ℚ) < 2 ^ roundedShift n d := by positivity
  have hvalue : m.value = rounded n d * 2 ^ roundedShift n d / unitsPerOne := by
    rw [value, (nearest?_eq_some hm).1, Nat.cast_mul, cast_twoTo]
  have hquotient : (n / d : ℚ) = unitsOf n d / unitsPerOne := by
    rw [unitsOf, Nat.cast_mul, div_right_comm, mul_div_cancel_right₀ _ unitsPerOne_pos.ne']
  have hsteps := mul_le_mul_of_nonneg_right hrounded hstep.le
  rw [hvalue, hquotient]
  -- half a step is a fraction of `2 ^ -53` on either side
  constructor
  · rw [div_mul_eq_mul_div, div_le_div_iff_of_pos_right unitsPerOne_pos, pow_one, roundingRatio]
    linarith [haround.below]
  · rw [div_mul_eq_mul_div, div_le_div_iff_of_pos_right unitsPerOne_pos, pow_one, roundingRatio]
    linarith [haround.above]

/-- Whether a number is neither next to zero nor near the greatest double. -/
structure IsModerate (y : ℚ) : Prop where
  low : 1 / 2 ^ 200 ≤ y
  high : y ≤ 2 ^ 200

theorem IsModerate.pos (h : IsModerate y) : 0 < y :=
  lt_of_lt_of_le (by positivity) h.low

theorem IsModerate.normal (h : IsModerate y) : 1 / 2 ^ 1022 ≤ y := by
  have hpower : (2 : ℚ) ^ 200 ≤ 2 ^ 1022 :=
    pow_le_pow_right₀ one_le_two (show 200 ≤ 1022 by decide)
  exact (one_div_le_one_div_of_le (by positivity) hpower).trans h.low

/-- A quotient that is near a moderate number has a rounding, which is near to it. -/
theorem exists_isRounded (hd : 0 < d) (hnear : IsNear k (n / d) y) (hk : k ≤ 20)
    (hy : IsModerate y) :
    ∃ m, nearest? n d = some m ∧ m.IsRounded (n / d) ∧ IsNear 1 m.value (n / d) := by
  have hratio : roundingRatio ^ k ≤ 2 := by
    calc roundingRatio ^ k ≤ roundingRatio ^ 20 :=
          pow_le_pow_right₀ (by norm_num [roundingRatio]) hk
      _ ≤ 2 := by norm_num [roundingRatio]
  have hd' : (0 : ℚ) < d := Nat.cast_pos.mpr hd
  have hhigh : (n / d : ℚ) < 2 ^ 1023 := by
    calc (n / d : ℚ) ≤ y * roundingRatio ^ k := hnear.le
      _ ≤ 2 ^ 200 * 2 := mul_le_mul hy.high hratio (ratio_pos k).le (by positivity)
      _ < 2 ^ 1023 := pow_succ (2 : ℚ) 200 ▸ pow_lt_pow_right₀ (by norm_num) (by norm_num)
  have hge : (1 / 2 ^ 200 : ℚ) ≤ n / d * 2 :=
    hy.low.trans (hnear.ge.trans (mul_le_mul_of_nonneg_left hratio (hnear.nonneg hy.pos.le)))
  have hlow : (1 / 2 ^ 1022 : ℚ) ≤ n / d := by
    have hpower : (2 : ℚ) ^ 201 ≤ 2 ^ 1022 :=
      pow_le_pow_right₀ one_le_two (show 201 ≤ 1022 by decide)
    calc (1 / 2 ^ 1022 : ℚ) ≤ 1 / 2 ^ 201 := one_div_le_one_div_of_le (by positivity) hpower
      _ = 1 / 2 ^ 200 / 2 := by rw [pow_succ, div_div]
      _ ≤ n / d := (div_le_iff₀ (by norm_num)).mpr hge
  have hfits : n < d * twoTo 1023 := by
    rw [div_lt_iff₀ hd', mul_comm, ← cast_twoTo] at hhigh
    exact_mod_cast hhigh
  obtain ⟨m, hm⟩ := exists_nearest? hd hfits
  have hrounded : m.IsRounded (n / d) := ⟨n, d, hd, hm, rfl⟩
  exact ⟨m, hm, hrounded, hrounded.isNear (.inr hlow)⟩

section Operations

theorem exists_add? (hnear : IsNear k (a.value + b.value) y) (hk : k ≤ 20) (hy : IsModerate y) :
    ∃ m, a.add? b = some m ∧ m.IsRounded (a.value + b.value) ∧
      IsNear 1 m.value (a.value + b.value) := by
  have hsum : a.value + b.value = (a.units + b.units : Nat) / unitsPerOne := by
    rw [value, value, Nat.cast_add, add_div]
  rw [hsum] at hnear ⊢
  exact exists_isRounded (twoTo_pos 1074) hnear hk hy

theorem exists_mul? (hnear : IsNear k (a.value * b.value) y) (hk : k ≤ 20) (hy : IsModerate y) :
    ∃ m, a.mul? b = some m ∧ m.IsRounded (a.value * b.value) ∧
      IsNear 1 m.value (a.value * b.value) := by
  have hproduct : a.value * b.value =
      (a.units * b.units : Nat) / (unitsPerOne * unitsPerOne : Nat) := by
    rw [value, value, div_mul_div_comm, Nat.cast_mul, Nat.cast_mul]
  rw [hproduct] at hnear ⊢
  exact exists_isRounded (Nat.mul_pos (twoTo_pos 1074) (twoTo_pos 1074)) hnear hk hy

theorem exists_div? (hnear : IsNear k (a.value / b.value) y) (hk : k ≤ 20) (hy : IsModerate y)
    (hb : 0 < b.value) :
    ∃ m, a.div? b = some m ∧ m.IsRounded (a.value / b.value) ∧
      IsNear 1 m.value (a.value / b.value) := by
  have hquotient : a.value / b.value = a.units / b.units := by
    rw [value, value, div_div_div_cancel_right₀ unitsPerOne_pos.ne']
  have hunits : 0 < b.units := by
    rw [value, div_pos_iff_of_pos_right unitsPerOne_pos] at hb
    exact_mod_cast hb
  rw [hquotient] at hnear ⊢
  exact exists_isRounded hunits hnear hk hy

end Operations

/-- A number of at most 53 bits and zeros after them is the value of a magnitude. -/
theorem exists_units {c j : Nat} (hc : c < twoTo 53) (hj : j ≤ 2045) :
    ∃ m : Magnitude, m.units = c * twoTo j := by
  induction j generalizing c with
  | zero => exact ⟨⟨c, 0, hc, by decide, .inl rfl⟩, rfl⟩
  | succ j ih =>
    rcases Nat.lt_or_ge c (twoTo 52) with hsmall | hnormal
    · obtain ⟨m, hm⟩ := ih (c := 2 * c) (by rw [twoTo_succ 52]; omega) (by omega)
      exact ⟨m, by rw [hm, twoTo_succ]; ring⟩
    · exact ⟨⟨c, j + 1, hc, hj, .inr hnormal⟩, rfl⟩

/-- A natural number that doubles reach has a rounding, which is near to it. -/
theorem exists_ofNat? (hn : n < twoTo 1023) :
    ∃ m, ofNat? n = some m ∧ m.IsRounded n ∧ IsNear 1 m.value n := by
  obtain ⟨m, hm⟩ := exists_nearest? (d := 1) Nat.one_pos (by rwa [Nat.one_mul])
  have hrounded : m.IsRounded n := ⟨n, 1, Nat.one_pos, hm, by rw [Nat.cast_one, div_one]⟩
  refine ⟨m, hm, hrounded, hrounded.isNear ?_⟩
  rcases Nat.eq_zero_or_pos n with rfl | hpos
  · exact .inl Nat.cast_zero
  · have hone : (1 : ℚ) ≤ n := Nat.one_le_cast.mpr hpos
    exact .inr ((div_le_one₀ (by positivity)).mpr (one_le_pow₀ one_le_two) |>.trans hone)

/-- A natural number of at most 53 bits and zeros after them is converted as it is. -/
theorem value_ofNat? {c j : Nat} (hc : c < twoTo 53) (hj : j ≤ 900)
    (hm : ofNat? (c * twoTo j) = some m) : m.value = (c * twoTo j : Nat) := by
  obtain ⟨m', hunits⟩ := exists_units (j := j + 1074) hc (by omega)
  have hvalue : m'.value = (c * twoTo j : Nat) := by
    rw [value, hunits, twoTo_add, ← mul_assoc, Nat.cast_mul _ (twoTo 1074)]
    exact mul_div_cancel_right₀ _ unitsPerOne_pos.ne'
  have hrounded : m.IsRounded m'.value :=
    ⟨_, 1, Nat.one_pos, hm, by rw [hvalue, Nat.cast_one, div_one]⟩
  rw [hrounded.eq, hvalue]

theorem value_ofNat?_small (hn : n < twoTo 53) (hm : ofNat? n = some m) : m.value = n := by
  have hn' : n * twoTo 0 = n := Nat.mul_one n
  rw [← hn'] at hm ⊢
  exact value_ofNat? hn (Nat.zero_le _) hm

/-- The powers of ten up to `10 ^ 22` are converted as they are. -/
theorem exists_power (hn : n ≤ 200) :
    ∃ m, ofNat? (tenTo n) = some m ∧ 0 < m.value ∧ IsNear 1 m.value (10 ^ n) ∧
      (n ≤ 22 → m.value = 10 ^ n) := by
  have hten : tenTo n = Nat.pow 5 n * twoTo n := Nat.mul_pow 5 2 n
  have hfits : tenTo n < twoTo 1023 := by
    calc tenTo n ≤ tenTo 200 := Nat.pow_le_pow_right (by decide) hn
      _ < twoTo 1023 := by decide +kernel
  obtain ⟨m, hm, -, hnear⟩ := exists_ofNat? hfits
  rw [cast_tenTo] at hnear
  refine ⟨m, hm, hnear.pos (by positivity), hnear, fun hsmall => ?_⟩
  have hodd : Nat.pow 5 n < twoTo 53 := by
    calc Nat.pow 5 n ≤ Nat.pow 5 22 := Nat.pow_le_pow_right (by decide) hsmall
      _ < twoTo 53 := by decide
  rw [hten] at hm
  rw [value_ofNat? hodd (by omega) hm, ← hten, cast_tenTo]

end Magnitude

namespace Double

variable {m : Magnitude} {q : ℚ} {k bits : Nat} {negative : Bool}

/-- Whether a double is finite and differs from a number by a fraction of `2 ^ -bits` at most. -/
def IsWithin (x : Double) (bits : Nat) (q : ℚ) : Prop :=
  ∃ v, x.value? = some v ∧ |v - q| ≤ |q| / 2 ^ bits

theorem isWithin_of_isNear (h : IsNear k m.value |q|) (hsign : signed negative |q| = q)
    (hbits : (roundingRatio ^ k - 1) * 2 ^ bits ≤ 1) : (finite negative m).IsWithin bits q := by
  have hdistance : |signed negative m.value - q| = |m.value - abs q| := by
    rw [← hsign]
    cases negative with
    | false => simp only [signed, Bool.false_eq_true, if_false, abs_abs]
    | true => simp only [signed, if_true, neg_sub_neg, abs_neg, abs_abs, abs_sub_comm]
  have hfraction : roundingRatio ^ k - 1 ≤ 1 / 2 ^ bits :=
    (le_div_iff₀ (by positivity)).mpr hbits
  refine ⟨_, rfl, ?_⟩
  calc |signed negative m.value - q| = |m.value - abs q| := hdistance
    _ ≤ (roundingRatio ^ k - 1) * |q| := h.abs_sub_le (abs_nonneg q)
    _ ≤ 1 / 2 ^ bits * |q| := mul_le_mul_of_nonneg_right hfraction (abs_nonneg q)
    _ = |q| / 2 ^ bits := one_div_mul_eq_div _ _

end Double

end DocMatch
