import DocMatch.Proofs.DecimalDoubles
import DocMatch.Proofs.ScannedNumbers
import DocMatch.Value.Json
/-!
What is left of a number in JSON.  A decimal becomes a JSON number next to its value, an integer of
64 bits the same one, and a number of few digits the double that it is read as itself.  A double up
to `2 ^ 63` in magnitude keeps its value.  A greater double is whole, and its JSON form is the end
of the 64-bit range on its side.
-/

namespace DocMatch

namespace JsonNumber

variable {i : Int}

/-- The double that a JSON number is read as. -/
def toDouble : JsonNumber → Double
  | .integer i => .ofScientific (.ofInt i)
  | .double x => x

/-- An integer that doubles reach is rounded once. -/
theorem exists_integer_toDouble (h : i.natAbs < twoTo 1023) :
    ∃ m, (integer i).toDouble = .finite (i < 0) m ∧ m.IsRounded i.natAbs ∧
      IsNear 1 m.value i.natAbs := by
  obtain ⟨m, hm, hrounded, hnear⟩ := Magnitude.exists_ofNat? h
  refine ⟨m, ?_, hrounded, hnear⟩
  by_cases hzero : i = 0
  · rw [hzero, Int.natAbs_zero, Nat.cast_zero] at hrounded
    rw [hrounded.eq_zero, hzero]
    rfl
  · have hexponent : ¬ (0 : Int) > 400 := by decide
    have hone : i.natAbs * tenTo (0 : Int).toNat = i.natAbs := Nat.mul_one _
    rw [toDouble, Scientific.ofInt, Double.ofScientific]
    dsimp only
    rw [if_neg (Int.natAbs_ne_zero.mpr hzero), if_pos le_rfl, if_neg hexponent, hone,
      Double.ofRatio_eq]
    dsimp only
    rw [← Magnitude.ofNat?, hm, Option.elim_some]

theorem integer_isNearest (h : |(i : ℚ)| ≤ 2 ^ 63) : (integer i).toDouble.IsNearest i := by
  have hfits : i.natAbs < twoTo 1023 := by
    have hbound : (i.natAbs : ℚ) ≤ twoTo 63 := by
      rwa [Nat.cast_natAbs, Int.cast_abs, cast_twoTo]
    exact (Nat.cast_le.mp hbound).trans_lt (by decide +kernel)
  obtain ⟨m, hm, hrounded, -⟩ := exists_integer_toDouble hfits
  have hnearest := hrounded.isNearest.mirror (decide (i < 0))
  rwa [signed_decide_lt_zero, ← hm] at hnearest

end JsonNumber

namespace Decimal

open JsonNumber (IsWhole isWhole_toDigits ofText?)

variable {d : Decimal} {i : Int}

theorem toList_text (d : Decimal) : d.text.toList =
    Scientific.withSign (d.coefficient < 0)
      (placePoint (Nat.toDigits 10 d.coefficient.natAbs) d.scale) := by
  rw [text, String.toList_ofList]
  by_cases hsign : d.coefficient < 0
  · rw [if_pos hsign, decide_eq_true hsign]
    rfl
  · rw [if_neg hsign, decide_eq_false hsign]
    rfl

theorem length_toDigits_le (d : Decimal) : (Nat.toDigits 10 d.coefficient.natAbs).length ≤ 29 := by
  rw [Nat.length_toDigits_le_iff (by decide) (by decide)]
  exact d.coefficient_lt.trans_le (by decide)

/-- Whether JSON has the decimal as an integer. -/
def IsJsonInteger (d : Decimal) : Prop :=
  d.scale = 0 ∧ JsonNumber.minInteger ≤ d.coefficient ∧ d.coefficient ≤ JsonNumber.maxInteger

theorem isJsonInteger_of_toInt64? (h : (Number.decimal d).toInt64? = some i) :
    d.IsJsonInteger ∧ d.coefficient = i := by
  obtain ⟨hinteger, hrange⟩ := Option.filter_eq_some_iff.mp h
  obtain ⟨hscale, hcoefficient⟩ := Option.ite_none_right_eq_some.mp hinteger
  cases hcoefficient
  have hbounds : Number.minInt64 ≤ d.coefficient ∧ d.coefficient ≤ Number.maxInt64 := by
    simpa using hrange
  have hmin : JsonNumber.minInteger = Number.minInt64 := rfl
  have hmax : Number.maxInt64 ≤ JsonNumber.maxInteger := by decide
  exact ⟨⟨hscale, hmin.le.trans hbounds.1, hbounds.2.trans hmax⟩, rfl⟩

/-- Zero is an integer of JSON. -/
theorem natAbs_pos_of_not_isJsonInteger (h : ¬ d.IsJsonInteger) : 0 < d.coefficient.natAbs := by
  rw [Int.natAbs_pos]
  intro hzero
  have hscale : d.scale = 0 := d.canonical.resolve_right fun hdigit => hdigit (by simp [hzero])
  exact h ⟨hscale, by rw [hzero]; decide, by rw [hzero]; decide⟩

theorem ofText?_integer (h : d.IsJsonInteger) :
    ofText? d.text.toList = some (.integer d.coefficient) := by
  obtain ⟨hscale, hlow, hhigh⟩ := h
  rw [toList_text, placePoint, if_pos hscale, JsonNumber.ofText?_whole (isWhole_toDigits _),
    JsonNumber.ofParts?_integer hlow hhigh]

/-- What stands before the point can be read back. -/
theorem isWhole_of_pointParts {n : Nat} {whole fraction : List Char} (hn : 0 < n)
    (h : PointParts (Nat.toDigits 10 n) whole fraction) :
    IsWhole whole ∧ whole.length ≤ (Nat.toDigits 10 n).length := by
  cases h with
  | padded => exact ⟨.inl rfl, Nat.length_toDigits_pos⟩
  | split hne hdigits =>
    constructor
    · refine .inr ⟨fun c hc => ?_, hne, fun c hc => ?_⟩
      · apply Scientific.isDigit_of_mem_toDigits
        rw [← hdigits]
        exact List.mem_append_left fraction hc
      · apply Scientific.head_toDigits_ne_zero hn c
        rw [← hdigits, List.head?_append_of_ne_nil _ hne]
        exact hc
    · rw [← hdigits, List.length_append]
      exact Nat.le_add_right _ _

/-- A decimal that JSON does not have as an integer is read as a double next to it. -/
theorem exists_ofText? (h : ¬ d.IsJsonInteger) :
    ∃ m, ofText? d.text.toList = some (.double (.finite (d.coefficient < 0) m)) ∧
      IsNear 4 m.value |d.value| ∧
      (d.coefficient.natAbs < twoTo 53 → d.scale ≤ 22 → m.IsRounded |d.value|) := by
  have hpos := natAbs_pos_of_not_isJsonInteger h
  rw [toList_text, abs_value]
  by_cases hscale : d.scale = 0
  · have hwide : d.coefficient < JsonNumber.minInteger ∨
        JsonNumber.maxInteger < d.coefficient := by
      by_contra hrange
      rw [not_or, not_lt, not_lt] at hrange
      exact h ⟨hscale, hrange⟩
    have hvalue := Scientific.digitsValue_toDigits d.coefficient.natAbs
    rw [← List.append_nil (Nat.toDigits 10 _)] at hvalue
    have hscanned := JsonNumber.exists_ofScientific?_scan (decide (d.coefficient < 0))
      (fun _ => Scientific.isDigit_of_mem_toDigits) (List.forall_mem_nil _)
      (hpos.trans_eq hvalue.symm) (d.length_toDigits_le.trans (by decide)) (by decide)
    rw [hvalue, List.length_nil] at hscanned
    rwa [placePoint, if_pos hscale, JsonNumber.ofText?_whole (isWhole_toDigits _),
      JsonNumber.ofParts?_wide hwide, hscale]
  · obtain ⟨whole, fraction, htext, hplaces, hparts⟩ :=
      placePoint_eq (Nat.toDigits 10 d.coefficient.natAbs) hscale
    obtain ⟨-, -, hfraction, hvalue⟩ :=
      hparts.isDigit fun _ => Scientific.isDigit_of_mem_toDigits
    obtain ⟨hwhole, hlength⟩ := isWhole_of_pointParts hpos hparts
    have hne : fraction ≠ [] := by
      rintro rfl
      exact hscale hplaces.symm
    rw [Scientific.digitsValue_toDigits] at hvalue
    have hscanned := JsonNumber.exists_ofScientific?_scan (decide (d.coefficient < 0))
      hwhole.isDigit hfraction (hpos.trans_eq hvalue.symm)
      ((hlength.trans d.length_toDigits_le).trans (by decide)) (hplaces.trans_le d.scale_le)
    rw [hvalue, hplaces] at hscanned
    rwa [htext, JsonNumber.ofText?_point hwhole hfraction hne]

theorem IsShort.fits {zeros : Nat} (h : d.IsShort zeros) :
    d.coefficient.natAbs < twoTo 53 ∧ d.scale ≤ 22 := by
  have hcoefficient := (Nat.le_mul_of_pos_right _ (tenTo_pos zeros)).trans h.1
  exact ⟨hcoefficient.trans_lt (by decide), (Nat.le_add_right _ _).trans h.2⟩

/-- The JSON number of a decimal. -/
theorem exists_toJson (d : Decimal) :
    ∃ j m, (Number.decimal d).toJson = .number j ∧
      (∀ i, (Number.decimal d).toInt64? = some i → j = .integer i) ∧
      (d.IsJsonInteger → j = .integer d.coefficient) ∧
      j.toDouble = .finite (d.coefficient < 0) m ∧ IsNear 4 m.value |d.value| ∧
      (d.IsJsonInteger ∨ d.coefficient.natAbs < twoTo 53 ∧ d.scale ≤ 22 →
        m.IsRounded |d.value|) := by
  by_cases hinteger : d.IsJsonInteger
  · obtain ⟨m, hm, hrounded, hnear⟩ := JsonNumber.exists_integer_toDouble
      (Decimal.twoTo_96_lt d.coefficient_lt)
    have hvalue : |d.value| = d.coefficient.natAbs := by
      rw [abs_value, hinteger.1, pow_zero, div_one]
    rw [hvalue]
    refine ⟨.integer d.coefficient, m, ?_, ?_, fun _ => rfl, hm,
      hnear.mono (Nat.cast_nonneg _) (by decide), fun _ => hrounded⟩
    · rw [Number.toJson]
      cases hint : (Number.decimal d).toInt64? with
      | some i => rw [(isJsonInteger_of_toInt64? hint).2]
      | none => simp only [ofText?_integer hinteger]
    · intro i hi
      rw [(isJsonInteger_of_toInt64? hi).2]
  · obtain ⟨m, hm, hnear, hrounded⟩ := exists_ofText? hinteger
    have hnone : (Number.decimal d).toInt64? = none := by
      cases hint : (Number.decimal d).toInt64? with
      | some i => exact absurd (isJsonInteger_of_toInt64? hint).1 hinteger
      | none => rfl
    refine ⟨.double (.finite (d.coefficient < 0) m), m, ?_, ?_, fun h => absurd h hinteger, rfl,
      hnear, ?_⟩
    · rw [Number.toJson, hnone]
      simp only [hm]
    · intro i hi
      rw [hnone] at hi
      cases hi
    · rintro (h | ⟨hbits, hplaces⟩)
      · exact absurd h hinteger
      · exact hrounded hbits hplaces

end Decimal

/-- The magnitude `2 ^ 63`. -/
def Magnitude.int64Bound : Magnitude :=
  ⟨twoTo 52, 1085, by decide, by decide, .inr le_rfl⟩

theorem Magnitude.value_int64Bound : int64Bound.value = 2 ^ 63 := by
  have hunits : int64Bound.units = twoTo 63 * unitsPerOne := by
    decide +kernel
  rw [value, hunits, Nat.cast_mul, cast_twoTo, mul_div_cancel_right₀ _ unitsPerOne_pos.ne']

namespace Number

variable {n : Number} {x : Double} {q : ℚ} {i : Int}

/-- The greatest integer of 64 bits is read as `2 ^ 63`. -/
theorem value?_maxInt64 : (JsonNumber.integer maxInt64).toDouble.value? = some (2 ^ 63) := by
  have hdouble : (JsonNumber.integer maxInt64).toDouble = .finite false .int64Bound := by
    decide +kernel
  rw [hdouble, Double.value?, Magnitude.value_int64Bound]
  rfl

theorem value?_minInt64 : (JsonNumber.integer minInt64).toDouble.value? = some (-2 ^ 63) := by
  have hdouble : (JsonNumber.integer minInt64).toDouble = .finite true .int64Bound := by
    decide +kernel
  rw [hdouble, Double.value?, Magnitude.value_int64Bound]
  rfl

/-- The integer of 64 bits nearest to an integer. -/
def clampInt64 (i : Int) : Int :=
  max minInt64 (min i maxInt64)

/-- The integer of 64 bits nearest to a whole double is read as what is nearest to the double
between `-2 ^ 63` and `2 ^ 63`. -/
theorem value?_clampInt64 (hi : x.toInt? = some i) :
    (JsonNumber.integer (clampInt64 i)).toDouble.value? =
      some (max (-2 ^ 63) (min (i : ℚ) (2 ^ 63))) := by
  have hmin : minInt64 = -2 ^ 63 := rfl
  have hmax : maxInt64 = 2 ^ 63 - 1 := rfl
  unfold clampInt64
  -- beyond the range the end is read, within it the integer is a double's value and read as that
  rcases lt_or_ge i minInt64 with hbelow | hlow
  · have hcast : (i : ℚ) ≤ -2 ^ 63 := by
      exact_mod_cast hbelow.le
    rw [max_eq_left (by omega), value?_minInt64, min_eq_left (by linarith), max_eq_left hcast]
  rcases lt_or_ge maxInt64 i with habove | hhigh
  · have hcast : (2 ^ 63 : ℚ) ≤ i := by
      exact_mod_cast (show 2 ^ 63 ≤ i by omega)
    rw [min_eq_right habove.le, max_eq_right (by omega), value?_maxInt64, min_eq_right hcast,
      max_eq_right (by norm_num)]
  · have hcastLow : -2 ^ 63 ≤ (i : ℚ) := by
      exact_mod_cast hlow
    have hcastHigh : (i : ℚ) ≤ 2 ^ 63 := by
      exact_mod_cast (show i ≤ 2 ^ 63 by omega)
    rw [min_eq_left hhigh, max_eq_right hlow, min_eq_left hcastHigh, max_eq_right hcastLow]
    have hnearest := JsonNumber.integer_isNearest (abs_le.mpr ⟨hcastLow, hcastHigh⟩)
    exact hnearest.value?_eq (Double.value?_of_toInt? hi)

theorem clampInt64_eq_self_iff (i : Int) :
    clampInt64 i = i ↔ -2 ^ 63 ≤ (i : ℚ) ∧ (i : ℚ) < 2 ^ 63 := by
  have hmin : minInt64 = -2 ^ 63 := rfl
  have hmax : maxInt64 = 2 ^ 63 - 1 := rfl
  have hcast : (-2 ^ 63 ≤ (i : ℚ) ∧ (i : ℚ) < 2 ^ 63) ↔ -2 ^ 63 ≤ i ∧ i < 2 ^ 63 := by
    norm_cast
  rw [hcast, clampInt64]
  omega

/-- What 64-bit integer a double has, and whether it is the value. -/
theorem double_toInt64? (hq : x.value? = some q) (h : (double x).toInt64? = some i) :
    (i : ℚ) = q ↔ -2 ^ 63 ≤ q ∧ q < 2 ^ 63 := by
  obtain ⟨whole, hwhole, rfl⟩ := Option.map_eq_some_iff.mp h
  rw [Double.value?_of_toInt? hwhole] at hq
  cases hq
  rw [← clampInt64_eq_self_iff]
  exact Int.cast_inj

/-- The JSON number of a finite double is read as a double of the same value exactly if the value
is at most `2 ^ 63` in magnitude. -/
theorem double_toJson (hq : x.value? = some q) :
    ∃ j, (double x).toJson = .number j ∧ (∀ i, (double x).toInt64? = some i → j = .integer i) ∧
      (j.toDouble.numericEq x = true ↔ |q| ≤ 2 ^ 63) := by
  cases hwhole : x.toInt? with
  | none =>
    have hsmall : |q| < 2 ^ 52 := Double.abs_lt_of_toInt?_eq_none hwhole hq
    refine ⟨.double x, ?_, by simp [toInt64?, hwhole], ?_⟩
    · obtain ⟨negative, m, rfl, -⟩ := Double.exists_finite_of_value? hq
      simp [toJson, toInt64?, hwhole]
    · exact ⟨fun _ => hsmall.le.trans (by norm_num), fun _ => Double.numericEq_self hq⟩
  | some i =>
    refine ⟨.integer (clampInt64 i), by simp [toJson, toInt64?, hwhole, clampInt64],
      by simp [toInt64?, hwhole, clampInt64], ?_⟩
    rw [Double.numericEq_iff (value?_clampInt64 hwhole) hq]
    rw [Double.value?_of_toInt? hwhole] at hq
    cases hq
    rw [abs_le]
    constructor
    · intro heq
      rw [← heq]
      exact ⟨le_max_left _ _, max_le (by norm_num) (min_le_right _ _)⟩
    · rintro ⟨hlow, hhigh⟩
      rw [min_eq_left hhigh, max_eq_right hlow]

end Number

theorem Value.text_number {n : Number} {j : JsonNumber} (h : n.toJson = .number j) :
    (Value.number n).text = j.text := by
  unfold text
  simp only [toJson, h, Json.text, Json.chars, String.ofList_toList]

/-- A number and its JSON form.  Its 64-bit integer, if it has one, is shown, and is its value for
every decimal and for the doubles that 64 bits hold; a double beyond them is shown as another
number.  A decimal is read as a double next to it, and shown as a JSON number next to it or as the
same integer.  If it is an integer of 64 bits or has few digits, with the zeros that it is held
with, both are the double nearest to it. -/
theorem number_in_json {n : Number} {q : ℚ} (hq : n.value? = some q) :
    (∀ i, n.toInt64? = some i →
      ((i : ℚ) = q ↔ ∀ x, n = .double x → -2 ^ 63 ≤ q ∧ q < 2 ^ 63)) ∧
    (∀ d zeros, n = .decimal d → d.CanHold zeros →
      (d.toDoubleWith zeros).IsWithin 49 q ∧
      (d.scale = 0 ∨ d.IsShort zeros → (d.toDoubleWith zeros).IsNearest q)) ∧
    ∃ j, (Value.number n).toJson = .number j ∧ (Value.number n).text = j.text ∧
      (∀ i, n.toInt64? = some i → j = .integer i) ∧
      (∀ x, n = .double x → (j.toDouble.numericEq x = true ↔ |q| ≤ 2 ^ 63)) ∧
      ∀ d, n = .decimal d →
        j.toDouble.IsWithin 50 q ∧
        (d.IsJsonInteger → j = .integer d.coefficient) ∧
        (d.IsJsonInteger ∨ d.coefficient.natAbs < twoTo 53 ∧ d.scale ≤ 22 →
          j.toDouble.IsNearest q) ∧
        ∀ zeros, d.CanHold zeros → d.IsJsonInteger ∨ d.IsShort zeros →
          j.toDouble = d.toDoubleWith zeros := by
  cases n with
  | decimal d =>
    cases hq
    obtain ⟨j, m, hj, hinteger, hkept, hdouble, hnear, hrounded⟩ := d.exists_toJson
    refine ⟨?_, ?_, j, hj, Value.text_number hj, hinteger, by rintro x ⟨⟩, ?_⟩
    · intro i hi
      obtain ⟨hjson, rfl⟩ := Decimal.isJsonInteger_of_toInt64? hi
      simp [Decimal.value, hjson.1]
    · rintro _ zeros ⟨⟩ hzeros
      exact ⟨Decimal.toDoubleWith_isWithin hzeros, Decimal.toDoubleWith_isNearest hzeros⟩
    · rintro _ ⟨⟩
      refine ⟨?_, hkept, fun hexact => ?_, fun zeros hzeros hexact => ?_⟩
      · rw [hdouble]
        exact Double.isWithin_of_isNear hnear d.signed_abs_value (by norm_num [roundingRatio])
      · have hnearest := (hrounded hexact).isNearest.mirror (decide (d.coefficient < 0))
        rwa [d.signed_abs_value, ← hdouble] at hnearest
      · obtain ⟨m', hread, -, hrounded'⟩ := Decimal.exists_toDoubleWith hzeros
        have hsame := (hrounded (hexact.imp_right Decimal.IsShort.fits)).unique
          (hrounded' (hexact.imp_left And.left))
        rw [hdouble, hread, hsame]
  | double x =>
    obtain ⟨j, hj, hinteger, hread⟩ := Number.double_toJson hq
    refine ⟨?_, by rintro d zeros ⟨⟩, j, hj, Value.text_number hj, hinteger, ?_, by rintro d ⟨⟩⟩
    · intro i hi
      rw [Number.double_toInt64? hq hi]
      simp
    · rintro _ ⟨⟩
      exact hread

/-- A decimal that neither 64 bits nor a double holds is shown as a double next to it. -/
theorem wide_decimal_in_json :
    ∃ d j, Number.read? "18446744073709551617".toList = some (.decimal d) ∧
      d.value = 18446744073709551617 ∧ d.CanHold 0 ∧
      d.toDouble.IsNearest 18446744073709551617 ∧
      (Value.number (.decimal d)).toJson = .number j ∧
      (Value.number (.decimal d)).text = j.text ∧
      j.toDouble.IsWithin 50 18446744073709551617 := by
  obtain ⟨d, hd⟩ : ∃ d : Decimal, d = ⟨18446744073709551617, 0, by decide, by decide, .inl rfl⟩ :=
    ⟨_, rfl⟩
  have hread : Number.read? "18446744073709551617".toList = some (.decimal d) := by
    rw [hd]
    decide +kernel
  have hvalue : d.value = 18446744073709551617 := by
    simp [Decimal.value, hd]
  have hscale : d.scale = 0 := by
    rw [hd]
  obtain ⟨-, hdouble, j, hj, htext, -, -, hshown⟩ :=
    number_in_json (n := .decimal d) (congrArg some hvalue)
  exact ⟨d, j, hread, hvalue, d.canHold_zero, (hdouble d 0 rfl d.canHold_zero).2 (.inl hscale), hj,
    htext, (hshown d rfl).1⟩

/-- A decimal of more places need not be shown as the double nearest to it. -/
example :
    (Number.read? "0.00000000000000000000001".toList).map (fun n => (Value.number n).text) =
      some "1.0000000000000001e-23" := by
  decide +kernel

/-- So not every number keeps its value: `1e300` has a 64-bit integer, and it is shown as that. -/
theorem great_double_shown_as_integer :
    (∃ x q, Number.read? "1e300".toList = some (.double x) ∧ x.value? = some q ∧ 2 ^ 63 < q ∧
      (Number.double x).toInt64? = some 9223372036854775807 ∧
      (Value.number (.double x)).toJson = .number (.integer 9223372036854775807)) ∧
    (¬ ∀ n q i, Number.value? n = some q → n.toInt64? = some i → (i : ℚ) = q) ∧
    ¬ ∀ n q, Number.value? n = some q → ∃ j, (Value.number n).toJson = .number j ∧
      j.toDouble.numericEq n.toDouble = true := by
  obtain ⟨m, hm⟩ : ∃ m : Magnitude, m = ⟨6724873095247260, 2018, by decide, by decide,
    .inr (by decide)⟩ := ⟨_, rfl⟩
  have hread : Number.read? "1e300".toList = some (.double (.finite false m)) := by
    rw [hm]
    decide +kernel
  have hinteger : (Number.double (.finite false m)).toInt64? = some 9223372036854775807 := by
    rw [hm]
    decide +kernel
  have hjson : (Value.number (.double (.finite false m))).toJson =
      .number (.integer 9223372036854775807) := by
    rw [Value.toJson, Number.toJson, hinteger]
  have hother : (JsonNumber.integer 9223372036854775807).toDouble.numericEq
      (Number.double (.finite false m)).toDouble = false := by
    rw [hm]
    decide +kernel
  have hgreat : 2 ^ 63 < m.value := by
    have hunits : twoTo 63 * Magnitude.unitsPerOne < m.units := by
      rw [hm]
      decide +kernel
    rw [Magnitude.value, lt_div_iff₀ Magnitude.unitsPerOne_pos, ← cast_twoTo]
    exact_mod_cast hunits
  refine ⟨⟨_, m.value, hread, rfl, hgreat, hinteger, hjson⟩, fun hall => ?_, fun hall => ?_⟩
  · have heq : ((9223372036854775807 : Int) : ℚ) = m.value := hall _ _ _ rfl hinteger
    rw [← heq] at hgreat
    norm_num at hgreat
  · obtain ⟨j, hj, hsame⟩ := hall (.double (.finite false m)) m.value rfl
    rw [hjson] at hj
    cases hj
    rw [hother] at hsame
    cases hsame

end DocMatch
