import DocMatch.Proofs.ExactValues
import Mathlib.Algebra.Order.Field.Basic
import Mathlib.Algebra.Order.Field.Power
import Mathlib.Algebra.Order.Group.Unbundled.Int
import Mathlib.Tactic.Positivity
import Mathlib.Tactic.Ring
/-!
Rounding to doubles.  A quotient is rounded to a multiple of a power of two that is at most half of
that power away; the doubles that are no such multiples lie below a multiple that is itself below
the quotient.  So no double is nearer.
-/

namespace DocMatch

/-- Whether a double is the one that `q` is rounded to: no finite double is nearer to `q`, and the
significand is even if another one is as near. -/
def Double.IsNearest : Double → ℚ → Prop
  | .finite negative m, q => ∀ (sign : Bool) (other : Magnitude),
      |signed negative m.value - q| ≤ |signed sign other.value - q| ∧
      (|signed negative m.value - q| = |signed sign other.value - q| →
        signed sign other.value = signed negative m.value ∨ m.significand % 2 = 0)
  | _, _ => False

section Halves

variable {r c : Int} {s y : ℚ}

/-- An integer other than the one that is at most a half away is at least a half away. -/
theorem half_le_abs_sub (hr : |r - s| ≤ 1 / 2) (hne : c ≠ r) : 1 / 2 ≤ |c - s| := by
  have hone : (1 : ℚ) ≤ |(c : ℚ) - r| := by
    exact_mod_cast Int.one_le_abs (sub_ne_zero.mpr hne)
  have htriangle : |(c : ℚ) - r| ≤ |c - s| + |s - r| := abs_sub_le _ _ _
  rw [abs_sub_comm s] at htriangle
  linarith

theorem abs_sub_le_of_half (hr : |r - s| ≤ 1 / 2) (c : Int) : |r - s| ≤ |c - s| := by
  by_cases heq : c = r
  · rw [heq]
  · exact hr.trans (half_le_abs_sub hr heq)

/-- What is at most a half away is nearest among the integers and what lies below an integer that
is not above. -/
theorem nearest_of_half (hr : |r - s| ≤ 1 / 2)
    (hy : (∃ c : Int, y = c) ∨ ∃ c : Int, y < c ∧ c ≤ s) :
    |r - s| ≤ |y - s| ∧ (|r - s| = |y - s| → y = r ∨ |r - s| = 1 / 2) := by
  rcases hy with ⟨c, rfl⟩ | ⟨c, hbelow, habove⟩
  · refine ⟨abs_sub_le_of_half hr c, fun heq => ?_⟩
    by_cases hc : c = r
    · exact .inl (by rw [hc])
    · have hhalf := half_le_abs_sub hr hc
      exact .inr (by linarith)
  · have hlt : |r - s| < |y - s| := by
      calc |r - s| ≤ |c - s| := abs_sub_le_of_half hr c
        _ = s - c := by rw [abs_sub_comm, abs_of_nonneg (sub_nonneg.mpr habove)]
        _ < s - y := by linarith
        _ ≤ |y - s| := by rw [abs_sub_comm]; exact le_abs_self _
    exact ⟨hlt.le, fun heq => absurd heq hlt.ne⟩

end Halves

namespace Magnitude

variable {n d significand shift : Nat} {m : Magnitude}

/-- A quotient and what it is rounded to are at most a half apart, and a half goes to an even
number. -/
theorem roundHalfEven_spec (n : Nat) (hd : 0 < d) :
    |(roundHalfEven n d : ℚ) - n / d| ≤ 1 / 2 ∧
      (|(roundHalfEven n d : ℚ) - n / d| = 1 / 2 → roundHalfEven n d % 2 = 0) := by
  have hd' : (0 : ℚ) < d := Nat.cast_pos.mpr hd
  obtain ⟨rest, hrest⟩ : ∃ rest : ℚ, rest = (n % d : Nat) / d := ⟨_, rfl⟩
  have hquotient : (n : ℚ) / d = (n / d : Nat) + rest := by
    rw [hrest, div_eq_iff hd'.ne', add_mul, div_mul_cancel₀ _ hd'.ne']
    exact_mod_cast (Nat.div_add_mod' n d).symm
  have hdouble : ((2 * (n % d) : Nat) : ℚ) = 2 * rest * d := by
    rw [Nat.cast_mul, hrest, mul_assoc, div_mul_cancel₀ _ hd'.ne', Nat.cast_two]
  have hlow : 0 ≤ rest := hrest ▸ div_nonneg (Nat.cast_nonneg _) hd'.le
  have hhigh : rest < 1 := by
    rw [hrest, div_lt_one hd']
    exact_mod_cast Nat.mod_lt n hd
  rw [hquotient]
  unfold roundHalfEven
  rcases lt_trichotomy (2 * (n % d)) d with hdown | htie | hup
  · have hless : 2 * rest < 1 := by
      rw [← mul_lt_iff_lt_one_left hd', ← hdouble]
      exact_mod_cast hdown
    rw [if_pos hdown, sub_add_cancel_left, abs_neg, abs_of_nonneg hlow]
    exact ⟨by linarith, fun heq => by linarith⟩
  · have hhalf : 2 * rest = 1 := by
      rw [← mul_eq_right₀ hd'.ne', ← hdouble, htie]
    rw [if_neg htie.not_lt, if_neg htie.not_gt]
    refine ⟨?_, fun _ => by omega⟩
    rcases Nat.mod_two_eq_zero_or_one (n / d) with heven | hodd
    · rw [heven, Nat.add_zero, sub_add_cancel_left, abs_neg, abs_of_nonneg hlow]
      linarith
    · rw [hodd, Nat.cast_add, Nat.cast_one, add_sub_add_left_eq_sub, abs_of_nonneg (by linarith)]
      linarith
  · have hmore : 1 < 2 * rest := by
      rw [← lt_mul_iff_one_lt_left hd', ← hdouble]
      exact_mod_cast hup
    rw [if_neg hup.not_gt, if_pos hup, Nat.cast_add, Nat.cast_one, add_sub_add_left_eq_sub,
      abs_of_nonneg (by linarith)]
    exact ⟨by linarith, fun heq => by linarith⟩

/-- The power of two whose multiples a quotient is rounded to. -/
def roundedShift (n d : Nat) : Nat :=
  (n * unitsPerOne / d).log2 - 52

/-- The multiple of that power that a quotient is rounded to. -/
def rounded (n d : Nat) : Nat :=
  roundHalfEven (n * unitsPerOne) (d * twoTo (roundedShift n d))

theorem nearest?_eq (n d : Nat) : nearest? n d =
    if rounded n d = twoTo 53 then ofParts? (twoTo 52) (roundedShift n d + 1)
    else ofParts? (rounded n d) (roundedShift n d) :=
  rfl

theorem ofParts?_eq_some (h : ofParts? significand shift = some m) :
    m.significand = significand ∧ m.shift = shift := by
  unfold ofParts? at h
  split at h
  · cases h
    exact ⟨rfl, rfl⟩
  · cases h

/-- The nearest magnitude is the rounded multiple, whether or not rounding carried. -/
theorem nearest?_eq_some (h : nearest? n d = some m) :
    m.units = rounded n d * twoTo (roundedShift n d) ∧
      (rounded n d % 2 = 0 → m.significand % 2 = 0) := by
  rw [nearest?_eq] at h
  split at h
  case isTrue hcarry =>
    obtain ⟨hsignificand, hshift⟩ := ofParts?_eq_some h
    refine ⟨?_, fun _ => by rw [hsignificand]; rfl⟩
    rw [units, hsignificand, hshift, hcarry, ← twoTo_add, ← twoTo_add]
    congr 1
    omega
  case isFalse =>
    obtain ⟨hsignificand, hshift⟩ := ofParts?_eq_some h
    exact ⟨by rw [units, hsignificand, hshift], fun heven => by rw [hsignificand, heven]⟩

/-- Where bits are rounded off, the quotient has all those of a significand. -/
theorem twoTo_le_quotient (h : 0 < roundedShift n d) :
    twoTo (52 + roundedShift n d) ≤ n * unitsPerOne / d := by
  have hlog : 52 + roundedShift n d = (n * unitsPerOne / d).log2 := by
    unfold roundedShift at h ⊢
    omega
  rw [hlog]
  apply Nat.log2_self_le
  intro hzero
  rw [roundedShift, hzero] at h
  exact absurd h (by decide)

/-- Every finite double is a multiple of the power of two that is rounded to, or below a multiple
of it that is not above the quotient. -/
theorem multiple_or_below (hd : 0 < d) (negative : Bool) (m : Magnitude) :
    let y := signed negative m.units / 2 ^ roundedShift n d
    (∃ c : Int, y = c) ∨
      ∃ c : Int, y < c ∧ c ≤ ((n * unitsPerOne : Nat) : ℚ) / (d * twoTo (roundedShift n d) : Nat) := by
  intro y
  have hpower : (0 : ℚ) < 2 ^ roundedShift n d := by positivity
  by_cases hshift : roundedShift n d ≤ m.shift
  · left
    obtain ⟨a, ha⟩ := twoTo_dvd_units hshift
    have hy : y = signed negative a := by
      rw [show y = signed negative m.units / 2 ^ roundedShift n d from rfl, ha, mul_comm,
        Nat.cast_mul, cast_twoTo, signed_mul, mul_div_cancel_right₀ _ hpower.ne']
    cases negative with
    | false => exact ⟨a, hy⟩
    | true => exact ⟨-a, by rw [hy]; simp [signed]⟩
  · -- a double of a lesser shift lies below the least normal one of this shift, and bits are only
    -- rounded off where the quotient does not
    right
    have hsmall : m.units < twoTo 52 * twoTo (roundedShift n d) := by
      rw [← twoTo_add]
      exact units_lt_of_shift_lt (not_le.mp hshift)
    have hlarge : twoTo 52 * (d * twoTo (roundedShift n d)) ≤ n * unitsPerOne := by
      have hle := twoTo_le_quotient (n := n) (d := d) (by omega)
      rw [Nat.le_div_iff_mul_le hd, twoTo_add] at hle
      calc _ = twoTo 52 * twoTo (roundedShift n d) * d := by ring
        _ ≤ _ := hle
    refine ⟨twoTo 52, ?_, ?_⟩
    · rw [div_lt_iff₀ hpower]
      calc signed negative (m.units : ℚ) ≤ |signed negative m.units| := le_abs_self _
        _ = m.units := by rw [abs_signed, Nat.abs_cast]
        _ < _ := by
          rw [← cast_twoTo]
          exact_mod_cast hsmall
    · rw [le_div_iff₀ (by exact_mod_cast Nat.mul_pos hd (twoTo_pos _))]
      exact_mod_cast hlarge

/-- Distances between values, in multiples of the power of two that is rounded to. -/
theorem abs_sub_eq_mul (hd : 0 < d) (k : Nat) (a : ℚ) :
    |a / unitsPerOne - n / d| =
      |a / 2 ^ k - ((n * unitsPerOne : Nat) : ℚ) / (d * twoTo k : Nat)| * (2 ^ k / unitsPerOne) := by
  have hd' : (0 : ℚ) < d := Nat.cast_pos.mpr hd
  have hone := unitsPerOne_pos
  generalize unitsPerOne = one at hone ⊢
  have hscale : (0 : ℚ) < 2 ^ k / one := by positivity
  rw [← abs_of_pos hscale, ← abs_mul]
  congr 1
  push_cast [cast_twoTo]
  field_simp

/-- No finite double is nearer to a quotient than its nearest magnitude. -/
theorem isNearest_of_nearest? (hd : 0 < d) (h : nearest? n d = some m) :
    (Double.finite false m).IsNearest (n / d) := by
  obtain ⟨hunits, heven⟩ := nearest?_eq_some h
  obtain ⟨hhalf, htie⟩ := roundHalfEven_spec (n * unitsPerOne)
    (Nat.mul_pos hd (twoTo_pos (roundedShift n d)))
  rw [← rounded] at hhalf htie
  have hscale : (0 : ℚ) < 2 ^ roundedShift n d / unitsPerOne :=
    div_pos (by positivity) unitsPerOne_pos
  have hvalue : signed false m.value = (m.units : ℚ) / unitsPerOne := rfl
  have hrounded : (m.units : ℚ) / 2 ^ roundedShift n d = rounded n d := by
    rw [hunits, Nat.cast_mul, cast_twoTo, mul_div_cancel_right₀ _ (by positivity)]
  -- both distances are now counted in units of the power of two, where the rounded one is a number
  intro sign other
  have hother : signed sign other.value = signed sign other.units / unitsPerOne := signed_div _ _ _
  obtain ⟨hle, heq⟩ := nearest_of_half (r := rounded n d) hhalf (multiple_or_below hd sign other)
  rw [hvalue, hother, abs_sub_eq_mul hd (roundedShift n d), abs_sub_eq_mul hd (roundedShift n d),
    hrounded, mul_le_mul_iff_left₀ hscale, mul_left_inj' hscale.ne']
  refine ⟨hle, fun hsame => ?_⟩
  rcases heq hsame with hmultiple | htied
  · left
    rw [Int.cast_natCast, ← hrounded] at hmultiple
    rw [(div_left_inj' (by positivity)).mp hmultiple]
  · exact .inr (heven (htie htied))

theorem div_le_roundHalfEven (n d : Nat) : n / d ≤ roundHalfEven n d := by
  simp only [roundHalfEven]
  split
  · exact le_rfl
  · split <;> omega

theorem roundHalfEven_le (n d : Nat) : roundHalfEven n d ≤ n / d + 1 := by
  simp only [roundHalfEven]
  split
  · omega
  · split <;> omega

theorem log2_lt {k : Nat} (hn : n ≠ 0) (h : n < twoTo k) : n.log2 < k :=
  (Nat.log2_lt hn).mpr h

theorem roundedShift_le (hd : 0 < d) (h : n < d * twoTo 1023) : roundedShift n d ≤ 2044 := by
  have hquotient : n * unitsPerOne / d < twoTo 2097 := by
    rw [Nat.div_lt_iff_lt_mul hd, show 2097 = 1023 + 1074 from rfl, twoTo_add, mul_right_comm,
      mul_comm _ d]
    exact Nat.mul_lt_mul_of_pos_right h (twoTo_pos 1074)
  rw [roundedShift]
  by_cases hzero : n * unitsPerOne / d = 0
  · rw [hzero]
    decide
  · have hlog := log2_lt hzero hquotient
    omega

/-- What is rounded has at most the bits of a significand, or carries into the next one. -/
theorem rounded_le (n d : Nat) : rounded n d ≤ twoTo 53 := by
  apply (roundHalfEven_le _ _).trans
  rw [← Nat.div_div_eq_div_mul, Nat.add_one_le_iff, Nat.div_lt_iff_lt_mul (twoTo_pos _),
    ← twoTo_add]
  calc _ < twoTo ((n * unitsPerOne / d).log2 + 1) := Nat.lt_log2_self
    _ ≤ _ := twoTo_le_twoTo (by rw [roundedShift]; omega)

theorem rounded_normal (n d : Nat) : roundedShift n d = 0 ∨ twoTo 52 ≤ rounded n d := by
  rcases Nat.eq_zero_or_pos (roundedShift n d) with hzero | hpos
  · exact .inl hzero
  · refine .inr (le_trans ?_ (div_le_roundHalfEven _ _))
    rw [← Nat.div_div_eq_div_mul, Nat.le_div_iff_mul_le (twoTo_pos _), ← twoTo_add]
    exact twoTo_le_quotient hpos

/-- A quotient below `2 ^ 1023` has a nearest magnitude. -/
theorem exists_nearest? (hd : 0 < d) (h : n < d * twoTo 1023) : ∃ m, nearest? n d = some m := by
  have hshift := roundedShift_le hd h
  rw [nearest?_eq]
  split
  case isTrue hcarry =>
    exact ⟨_, dif_pos ⟨by decide, by omega, .inr le_rfl⟩⟩
  case isFalse hbelow =>
    exact ⟨_, dif_pos ⟨lt_of_le_of_ne (rounded_le n d) hbelow, by omega, rounded_normal n d⟩⟩

end Magnitude

namespace Double

variable {m : Magnitude} {x y : Double} {q : ℚ}

/-- Rounding takes no notice of the sign. -/
theorem IsNearest.mirror (h : (finite false m).IsNearest q) (negative : Bool) :
    (finite negative m).IsNearest (signed negative q) := by
  cases negative with
  | false => exact h
  | true =>
    intro sign other
    have hdistance : ∀ v : ℚ, |-v - signed true q| = |v - q| := by
      intro v
      rw [signed, if_pos rfl, neg_sub_neg, abs_sub_comm]
    obtain ⟨hle, heq⟩ := h (!sign) other
    have hother : signed sign other.value = -signed (!sign) other.value := by
      rw [signed_not, neg_neg]
    have hvalue : signed true m.value = -signed false m.value := rfl
    rw [hother, hvalue, hdistance, hdistance, neg_inj]
    exact ⟨hle, heq⟩

/-- Stated of the function as a whole: at arguments, checking an unfolding would work out the
magnitude. -/
theorem ofRatio_eq : ofRatio = fun negative n d =>
    (Magnitude.nearest? n d).elim (.infinite negative) (.finite negative) := by
  delta ofRatio
  funext negative n d
  cases Magnitude.nearest? n d <;> rfl

theorem IsNearest.exists_finite (h : x.IsNearest q) : ∃ negative m, x = .finite negative m := by
  cases x with
  | finite negative m => exact ⟨negative, m, rfl⟩
  | infinite _ => exact h.elim
  | nan => exact h.elim

/-- The value of a double is rounded to that value. -/
theorem IsNearest.value?_eq (h : x.IsNearest q) (hy : y.value? = some q) : x.value? = some q := by
  obtain ⟨negative, m, rfl⟩ := h.exists_finite
  obtain ⟨sign, other, rfl, rfl⟩ := exists_finite_of_value? hy
  have hle := (h sign other).1
  rw [sub_self, abs_zero] at hle
  rw [value?, sub_eq_zero.mp (abs_nonpos_iff.mp hle)]

end Double

theorem Scientific.abs_value (s : Scientific) : |s.value| = s.coefficient * 10 ^ s.exponent := by
  rw [value, abs_signed]
  exact abs_of_nonneg (by positivity)

end DocMatch
