import DocMatch.Json.Basic
import Mathlib.Algebra.Order.Field.Rat
import Mathlib.Data.Nat.Cast.Field
import Mathlib.Data.Rat.Cast.Order
import Mathlib.Tactic.FieldSimp
import Mathlib.Tactic.Linarith
import Mathlib.Tactic.NormNum
/-!
The exact values of numbers, as rationals.  A finite double has one canonical form, so two of them
are equal as numbers exactly when their values are, and a double denotes an integer exactly when
its value is one.
-/

namespace DocMatch

theorem twoTo_add (m n : Nat) : twoTo (m + n) = twoTo m * twoTo n :=
  Nat.pow_add 2 m n

theorem twoTo_le_twoTo {m n : Nat} (h : m ≤ n) : twoTo m ≤ twoTo n :=
  Nat.pow_le_pow_right (by decide) h

@[simp] theorem cast_twoTo (n : Nat) : ((twoTo n : Nat) : ℚ) = 2 ^ n :=
  Nat.cast_pow 2 n

@[simp] theorem cast_tenTo (n : Nat) : ((tenTo n : Nat) : ℚ) = 10 ^ n :=
  Nat.cast_pow 10 n

/-- A value under a sign. -/
def signed (negative : Bool) (v : ℚ) : ℚ :=
  if negative then -v else v

theorem abs_signed (negative : Bool) (v : ℚ) : |signed negative v| = |v| := by
  cases negative with
  | false => rfl
  | true => exact abs_neg v

theorem signed_not (negative : Bool) (v : ℚ) : signed (!negative) v = -signed negative v := by
  cases negative with
  | false => rfl
  | true => exact (neg_neg v).symm

theorem signed_mul (negative : Bool) (v w : ℚ) : signed negative (v * w) = signed negative v * w := by
  cases negative with
  | false => rfl
  | true => exact (neg_mul v w).symm

theorem signed_div (negative : Bool) (v w : ℚ) : signed negative (v / w) = signed negative v / w := by
  rw [div_eq_mul_inv, signed_mul, ← div_eq_mul_inv]

theorem signed_decide_lt_zero (i : Int) : signed (decide (i < 0)) (i.natAbs : ℚ) = i := by
  rw [Nat.cast_natAbs]
  by_cases h : i < 0
  · simp [signed, h, abs_of_neg]
  · simp [signed, h, abs_of_nonneg (not_lt.mp h)]

namespace Magnitude

/-- The exact value. -/
def value (m : Magnitude) : ℚ :=
  m.units / unitsPerOne

theorem unitsPerOne_pos : (0 : ℚ) < unitsPerOne :=
  Nat.cast_pos.mpr (twoTo_pos 1074)

theorem value_nonneg (m : Magnitude) : 0 ≤ m.value :=
  div_nonneg (Nat.cast_nonneg _) unitsPerOne_pos.le

variable {m m' : Magnitude} {k : Nat}

/-- The magnitudes of a lesser shift lie below the normal ones of a greater one. -/
theorem units_lt_of_shift_lt (h : m.shift < k) : m.units < twoTo (52 + k) := by
  calc m.units < twoTo 53 * twoTo m.shift :=
        Nat.mul_lt_mul_of_pos_right m.significand_lt (twoTo_pos _)
    _ = twoTo (53 + m.shift) := (twoTo_add _ _).symm
    _ ≤ twoTo (52 + k) := twoTo_le_twoTo (by omega)

theorem twoTo_le_units (h : 0 < m.shift) : twoTo (52 + m.shift) ≤ m.units := by
  have hnormal : twoTo 52 ≤ m.significand := m.canonical.resolve_left h.ne'
  rw [twoTo_add]
  exact Nat.mul_le_mul_right _ hnormal

theorem twoTo_dvd_units (h : k ≤ m.shift) : twoTo k ∣ m.units :=
  Dvd.dvd.mul_left (Nat.pow_dvd_pow 2 h) _

theorem units_lt_units (h : m.shift < m'.shift) : m.units < m'.units :=
  (units_lt_of_shift_lt h).trans_le (twoTo_le_units (by omega))

/-- The canonical form of a magnitude is determined by its value. -/
theorem eq_of_units_eq (h : m.units = m'.units) : m = m' := by
  have hshift : m.shift = m'.shift := by
    rcases lt_trichotomy m.shift m'.shift with hlt | heq | hgt
    · exact absurd h (units_lt_units hlt).ne
    · exact heq
    · exact absurd h (units_lt_units hgt).ne'
  have hsignificand : m.significand = m'.significand := by
    unfold units at h
    rw [hshift] at h
    exact Nat.eq_of_mul_eq_mul_right (twoTo_pos _) h
  cases m
  cases m'
  cases hshift
  cases hsignificand
  rfl

theorem eq_of_value_eq (h : m.value = m'.value) : m = m' := by
  apply eq_of_units_eq
  exact_mod_cast (div_left_inj' unitsPerOne_pos.ne').mp h

theorem value_eq_zero_iff : m.value = 0 ↔ m.significand = 0 := by
  have hunits : m.units = 0 ↔ m.significand = 0 := by
    rw [units, Nat.mul_eq_zero, or_iff_left (twoTo_pos _).ne']
  rw [value, div_eq_zero_iff, or_iff_left unitsPerOne_pos.ne', Nat.cast_eq_zero, hunits]

end Magnitude

namespace Double

/-- The exact value of a double, if it is finite. -/
def value? : Double → Option ℚ
  | .finite negative m => some (signed negative m.value)
  | _ => none

variable {x y : Double} {p q : ℚ} {i : Int}

theorem exists_finite_of_value? (hx : x.value? = some q) :
    ∃ negative m, x = .finite negative m ∧ signed negative m.value = q := by
  cases x with
  | finite negative m => exact ⟨negative, m, rfl, Option.some.inj hx⟩
  | infinite _ => cases hx
  | nan => cases hx

/-- Numeric equality of finite doubles is equality of values. -/
theorem numericEq_iff (hx : x.value? = some p) (hy : y.value? = some q) :
    x.numericEq y = true ↔ p = q := by
  obtain ⟨s, m, rfl, rfl⟩ := exists_finite_of_value? hx
  obtain ⟨t, m', rfl, rfl⟩ := exists_finite_of_value? hy
  simp only [numericEq, Bool.and_eq_true, Bool.or_eq_true, beq_iff_eq]
  constructor
  · rintro ⟨rfl, rfl | hzero⟩
    · rfl
    · simp [signed, Magnitude.value_eq_zero_iff.mpr hzero]
  · intro heq
    have hmagnitude : m = m' := by
      have habs := congrArg abs heq
      rw [abs_signed, abs_signed, abs_of_nonneg m.value_nonneg, abs_of_nonneg m'.value_nonneg]
        at habs
      exact Magnitude.eq_of_value_eq habs
    subst hmagnitude
    refine ⟨rfl, ?_⟩
    cases s <;> cases t <;> simp [signed, ← Magnitude.value_eq_zero_iff] at heq ⊢ <;> linarith

theorem numericEq_self (hx : x.value? = some q) : x.numericEq x = true :=
  (numericEq_iff hx hx).mpr rfl

/-- The integer that a double denotes is its value. -/
theorem value?_of_toInt? (h : x.toInt? = some i) : x.value? = some (i : ℚ) := by
  cases x with
  | infinite _ => cases h
  | nan => cases h
  | finite negative m =>
    rw [toInt?, Option.ite_none_right_eq_some] at h
    obtain ⟨hdvd, hi⟩ := h
    have hvalue : m.value = (m.units / Magnitude.unitsPerOne : Nat) := by
      rw [Nat.cast_div (Nat.dvd_of_mod_eq_zero hdvd) Magnitude.unitsPerOne_pos.ne']
      rfl
    cases hi
    cases negative <;> simp [value?, signed, hvalue, -Int.natCast_ediv]

/-- A finite double of `2 ^ 52` or more is whole. -/
theorem abs_lt_of_toInt?_eq_none (h : x.toInt? = none) (hx : x.value? = some q) :
    |q| < 2 ^ 52 := by
  obtain ⟨negative, m, rfl, rfl⟩ := exists_finite_of_value? hx
  have hdvd : ¬ Magnitude.unitsPerOne ∣ m.units := by
    intro hdvd
    rw [toInt?, if_pos (Nat.mod_eq_zero_of_dvd hdvd)] at h
    cases h
  have hshift : m.shift < 1074 := by
    by_contra hle
    exact hdvd (Magnitude.twoTo_dvd_units (not_lt.mp hle))
  have hunits : m.units < twoTo 52 * Magnitude.unitsPerOne := by
    rw [Magnitude.unitsPerOne, ← twoTo_add]
    exact Magnitude.units_lt_of_shift_lt hshift
  rw [abs_signed, abs_of_nonneg m.value_nonneg, Magnitude.value,
    div_lt_iff₀ Magnitude.unitsPerOne_pos, ← cast_twoTo]
  exact_mod_cast hunits

end Double

namespace Scientific

/-- The exact value. -/
def value (s : Scientific) : ℚ :=
  signed s.negative (s.coefficient * 10 ^ s.exponent)

/-- An integer in decimal notation. -/
def ofInt (i : Int) : Scientific :=
  ⟨i < 0, i.natAbs, 0⟩

end Scientific

namespace Decimal

/-- The exact value. -/
def value (d : Decimal) : ℚ :=
  d.coefficient / 10 ^ d.scale

end Decimal

/-- The exact value of a number, if it is finite. -/
def Number.value? : Number → Option ℚ
  | .decimal d => some d.value
  | .double x => x.value?

end DocMatch
