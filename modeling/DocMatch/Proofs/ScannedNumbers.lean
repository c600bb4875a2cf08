import DocMatch.Json.Number
import DocMatch.Proofs.DecimalTexts
import DocMatch.Proofs.RoundedSteps
/-!
Number texts of JSON.  Digits that 64 bits hold are scanned as they are.  Of more digits a head is
scanned that has more bits than a double, so what is dropped changes less than a rounding; and what
has been scanned is converted and scaled in three roundings, or in one if it is short.
-/

namespace DocMatch

/-- The digits after a number add less than one to it, in units of its last place. -/
theorem continued_div_bounds {digits : List Nat} (hdigits : ∀ d ∈ digits, d < 10) (n : Nat) :
    (n : ℚ) ≤ continued n digits / 10 ^ digits.length ∧
      (continued n digits / 10 ^ digits.length : ℚ) ≤ n + 1 := by
  have hpower : (0 : ℚ) < 10 ^ digits.length := by positivity
  have hrest : (continued 0 digits : ℚ) ≤ 10 ^ digits.length := by
    rw [← cast_tenTo]
    exact Nat.cast_le.mpr (continued_zero_lt hdigits).le
  rw [continued_eq, Nat.cast_add, Nat.cast_mul, cast_tenTo, add_div,
    mul_div_cancel_right₀ _ hpower.ne']
  constructor
  · exact le_add_of_nonneg_right (by positivity)
  · exact add_le_add_right ((div_le_one hpower).mpr hrest) _

namespace JsonNumber

open Scientific (digitsValue digitValue digitsValue_append digitsValue_eq_continued digitValues_lt
  digitsValue_le_append)

variable {n : Nat} {digits whole fraction rest : List Char} {negative : Bool}

/-- What is taken of digits, and why it is no more. -/
theorem takeDigits_spec (n : Nat) (hdigits : ∀ d ∈ digits, d.isDigit = true) :
    ∃ taken, digits = taken ++ (takeDigits n digits).2 ∧
      (takeDigits n digits).1 = continued n (taken.map digitValue) ∧
      ((takeDigits n digits).2 = [] ∨ twoTo 64 ≤ (takeDigits n digits).1 * 10 + 9) := by
  induction digits generalizing n with
  | nil => exact ⟨[], rfl, rfl, .inl rfl⟩
  | cons d rest ih =>
    obtain ⟨hd, hrest⟩ := List.forall_mem_cons.mp hdigits
    rw [takeDigits]
    split
    case isTrue hfits =>
      obtain ⟨taken, hsplit, hvalue, hend⟩ := ih (n * 10 + digitValue d) hrest
      exact ⟨d :: taken, by rw [List.cons_append, ← hsplit], hvalue, hend⟩
    case isFalse hfull =>
      have hlt := Scientific.digitValue_lt hd
      exact ⟨[], rfl, rfl, .inr (by omega)⟩

/-- Digits that fit are taken all. -/
theorem takeDigits_eq (h : continued n (digits.map digitValue) < twoTo 64) :
    takeDigits n digits = (continued n (digits.map digitValue), []) := by
  induction digits generalizing n with
  | nil => rfl
  | cons d rest ih =>
    have hfits := (le_continued (n * 10 + digitValue d) (rest.map digitValue)).trans_lt h
    rw [takeDigits, if_pos hfits]
    exact ih h

theorem takeDigits_lt (hn : n < twoTo 64) (digits : List Char) :
    (takeDigits n digits).1 < twoTo 64 := by
  induction digits generalizing n with
  | nil => exact hn
  | cons d rest ih =>
    rw [takeDigits]
    split
    case isTrue hfits => exact ih hfits
    case isFalse => exact hn

/-- A number that 64 bits hold is scanned as it is. -/
theorem scan_eq (h : digitsValue (whole ++ fraction) < twoTo 64) :
    scan negative whole fraction 0 =
      ⟨negative, digitsValue (whole ++ fraction), -(fraction.length : Int)⟩ := by
  have hwhole := (digitsValue_le_append whole fraction).trans_lt h
  rw [digitsValue_eq_continued] at hwhole
  rw [digitsValue_append, digitsValue_eq_continued] at h ⊢
  rw [scan, takeDigits_eq hwhole]
  simp only [takeDigits_eq h, List.length_nil, Nat.cast_zero, add_zero, zero_sub]

/-- Numbers with a common head of 64 bits are less than a rounding apart. -/
theorem isNear_of_head {a : Nat} {taken all : List Nat} (ha : twoTo 64 ≤ a * 10 + 9)
    (htaken : ∀ d ∈ taken, d < 10) (hall : ∀ d ∈ all, d < 10) (b : Int) :
    IsNear 1 (continued a taken * 10 ^ (b - taken.length))
      (continued a all * 10 ^ (b - all.length)) := by
  have hlarge : 2 ^ 53 ≤ (a : ℚ) := by
    have hbits : twoTo 53 ≤ a := by
      have hsmall : twoTo 53 * 10 + 9 ≤ twoTo 64 := by decide
      omega
    rw [← cast_twoTo]
    exact Nat.cast_le.mpr hbits
  have hscaled : ∀ digits : List Nat, (continued a digits * 10 ^ (b - digits.length) : ℚ) =
      continued a digits / 10 ^ digits.length * 10 ^ b := by
    intro digits
    rw [zpow_sub₀ (by norm_num), zpow_natCast, mul_div_assoc', div_mul_eq_mul_div]
  obtain ⟨hlow, hhigh⟩ := continued_div_bounds htaken a
  obtain ⟨hlow', hhigh'⟩ := continued_div_bounds hall a
  have hnear : IsNear 1 (continued a taken / 10 ^ taken.length)
      (continued a all / 10 ^ all.length) := by
    constructor
    · rw [pow_one, roundingRatio]
      linarith
    · rw [pow_one, roundingRatio]
      linarith
  rw [hscaled, hscaled]
  exact hnear.mul (.refl 0 (by positivity)) (by positivity) (by positivity)

/-- What is scanned of digits around a point: the units before the digits that are left, and the
digits taken after the point.  Digits are left only where 64 bits are full. -/
structure Scans (whole fraction : List Char) (s : Scientific) (units : Nat)
    (left taken dropped : List Nat) : Prop where
  coefficient : s.coefficient = continued units taken
  exponent : s.exponent = left.length - taken.length
  places : fraction.length = taken.length + dropped.length
  digits : ∀ d ∈ left ++ taken ++ dropped, d < 10
  value : digitsValue (whole ++ fraction) = continued units (left ++ taken ++ dropped)
  full_before : left = [] ∨ twoTo 64 ≤ units * 10 + 9
  full_after : dropped = [] ∨ twoTo 64 ≤ continued units taken * 10 + 9

theorem exists_scans (negative : Bool) (hwhole : ∀ d ∈ whole, d.isDigit = true)
    (hfraction : ∀ d ∈ fraction, d.isDigit = true) :
    ∃ units left taken dropped,
      Scans whole fraction (scan negative whole fraction 0) units left taken dropped := by
  obtain ⟨read, hread, hunits, hbefore⟩ := takeDigits_spec 0 hwhole
  obtain ⟨taken, htaken, hsignificand, hafter⟩ :=
    takeDigits_spec (takeDigits 0 whole).1 hfraction
  refine ⟨(takeDigits 0 whole).1, (takeDigits 0 whole).2.map digitValue, taken.map digitValue,
    (takeDigits (takeDigits 0 whole).1 fraction).2.map digitValue, hsignificand, ?_, ?_, ?_, ?_,
    ?_, ?_⟩
  · have hlength := congrArg List.length htaken
    rw [List.length_append] at hlength
    simp only [scan, List.length_map]
    omega
  · simpa using congrArg List.length htaken
  · rw [← List.map_append, ← List.map_append, List.append_assoc, ← htaken]
    apply digitValues_lt
    intro d hd
    rcases List.mem_append.mp hd with hd | hd
    · rw [hread] at hwhole
      exact hwhole d (List.mem_append_right read hd)
    · exact hfraction d hd
  · rw [List.append_assoc, ← List.map_append, ← htaken, ← List.map_append, hunits,
      ← continued_append, ← List.map_append, ← List.append_assoc, ← hread,
      digitsValue_eq_continued]
  · exact hbefore.imp_left fun hnil => by rw [hnil, List.map_nil]
  · rw [← hsignificand]
    exact hafter.imp_left fun hnil => by rw [hnil, List.map_nil]

/-- What is scanned is next to the number that the digits write. -/
theorem scan_isNear (negative : Bool) (hwhole : ∀ d ∈ whole, d.isDigit = true)
    (hfraction : ∀ d ∈ fraction, d.isDigit = true) :
    IsNear 1 ((scan negative whole fraction 0).coefficient *
        10 ^ (scan negative whole fraction 0).exponent)
      (digitsValue (whole ++ fraction) / 10 ^ fraction.length) := by
  obtain ⟨units, left, taken, dropped, h⟩ := exists_scans negative hwhole hfraction
  have hplaces : ((digitsValue (whole ++ fraction) : Nat) / 10 ^ fraction.length : ℚ) =
      continued units (left ++ taken ++ dropped) *
        10 ^ (left.length - (left ++ taken ++ dropped).length : Int) := by
    have hexponent : (left.length - (left ++ taken ++ dropped).length : Int) =
        -(fraction.length : Int) := by
      rw [h.places, List.length_append, List.length_append]
      omega
    rw [h.value, hexponent, zpow_neg, zpow_natCast, div_eq_mul_inv]
  have hdigits := h.digits
  rw [h.coefficient, h.exponent, hplaces]
  rcases h.full_before with rfl | hfull
  · rcases h.full_after with rfl | hfull
    · -- all digits have been taken
      rw [List.append_nil, List.nil_append]
      exact .refl 1 (by positivity)
    · -- the digits of 64 bits end after the point
      have hnear := isNear_of_head hfull (List.forall_mem_nil (· < 10))
        (fun d hd => hdigits d (List.mem_append_right _ hd)) (-(taken.length : Int))
      rw [← continued_append, ← continued_append, List.append_nil] at hnear
      simpa [sub_eq_add_neg, add_comm] using hnear
  · -- the digits of 64 bits end before the point, and some after it may still be taken
    have htaken : ∀ d ∈ taken, d < 10 := fun d hd =>
      hdigits d (List.mem_append_left _ (List.mem_append_right _ hd))
    exact isNear_of_head hfull htaken hdigits left.length

section Conversion

open Magnitude (IsModerate ofNat? exists_ofNat? exists_power)

variable {s : Scientific} {m : Magnitude} {k : Nat}

theorem isModerate_scanned (hpos : 0 < s.coefficient) (hbits : s.coefficient < twoTo 64)
    (hlow : -28 ≤ s.exponent) (hhigh : s.exponent ≤ 40) :
    IsModerate (s.coefficient * 10 ^ s.exponent : ℚ) := by
  have hone : (1 : ℚ) ≤ s.coefficient := Nat.one_le_cast.mpr hpos
  have hbound : (s.coefficient : ℚ) ≤ 2 ^ 64 := by
    rw [← cast_twoTo]
    exact Nat.cast_le.mpr hbits.le
  constructor
  · calc (1 / 2 ^ 200 : ℚ) ≤ 10 ^ (-28 : Int) := by norm_num
      _ ≤ 10 ^ s.exponent := zpow_le_zpow_right₀ (by norm_num) hlow
      _ ≤ s.coefficient * 10 ^ s.exponent := le_mul_of_one_le_left (by positivity) hone
  · calc (s.coefficient * 10 ^ s.exponent : ℚ) ≤ 2 ^ 64 * 10 ^ (40 : Int) :=
          mul_le_mul hbound (zpow_le_zpow_right₀ (by norm_num) hhigh) (by positivity)
            (by positivity)
      _ ≤ 2 ^ 200 := by norm_num

/-- A small exponent takes one division or one multiplication. -/
theorem scaled?_places (hk : 0 < k) (hk' : k ≤ 308) (m : Magnitude) :
    scaled? m (-(k : Int)) = (power? k).bind fun power => m.div? power := by
  have hsteps : (k - 1) / maxPower = 0 := Nat.div_eq_of_lt (by rw [maxPower]; omega)
  have hnone : divideSteps 0 m = some m := rfl
  rw [scaled?, if_pos (by omega), Int.natAbs_neg, Int.natAbs_natCast]
  dsimp only
  rw [hsteps, hnone, Option.bind_eq_bind, Option.bind_some, Nat.mul_zero, Nat.sub_zero]

theorem scaled?_whole (hk : k ≤ 308) (m : Magnitude) :
    scaled? m k = (power? k).bind fun power => m.mul? power := by
  have hlimit : (k : Int) ≤ maxPower := by rw [maxPower]; omega
  rw [scaled?, if_neg (by omega), if_pos hlimit, Int.toNat_natCast]
  rfl

/-- A small exponent scales a number to what is near, and if both are short, in one rounding. -/
theorem exists_scaled? (hnear : IsNear 1 m.value s.coefficient) (hpos : 0 < s.coefficient)
    (hbits : s.coefficient < twoTo 64) (hlow : -28 ≤ s.exponent) (hhigh : s.exponent ≤ 40) :
    ∃ result, scaled? m s.exponent = some result ∧
      IsNear 3 result.value (s.coefficient * 10 ^ s.exponent) ∧
      (m.value = s.coefficient → -22 ≤ s.exponent → s.exponent ≤ 0 →
        result.IsRounded (s.coefficient * 10 ^ s.exponent)) := by
  have hmoderate := isModerate_scanned hpos hbits hlow hhigh
  rcases lt_or_ge s.exponent 0 with hplaces | hwhole
  · obtain ⟨k, hk⟩ := Int.eq_ofNat_of_zero_le (show 0 ≤ -s.exponent by omega)
    have hexponent : s.exponent = -k := by omega
    have hquotient : (s.coefficient * 10 ^ s.exponent : ℚ) = s.coefficient / 10 ^ k := by
      rw [hexponent, zpow_neg, zpow_natCast, div_eq_mul_inv]
    obtain ⟨power, hpower, hpositive, hpowerNear, hpowerValue⟩ := exists_power (n := k) (by omega)
    rw [hquotient] at hmoderate ⊢
    have hratio := hnear.div hpowerNear (Nat.cast_nonneg _) (by positivity)
    obtain ⟨result, hresult, hrounded, hround⟩ :=
      Magnitude.exists_div? hratio (by omega) hmoderate hpositive
    refine ⟨result, ?_, hround.trans hratio, fun hvalue hshort _ => ?_⟩
    · rw [hexponent, scaled?_places (by omega) (by omega), power?, hpower, Option.bind_some,
        hresult]
    · rwa [hvalue, hpowerValue (by omega)] at hrounded
  · obtain ⟨k, hk⟩ := Int.eq_ofNat_of_zero_le hwhole
    obtain ⟨power, hpower, -, hpowerNear, hpowerValue⟩ := exists_power (n := k) (by omega)
    rw [hk, zpow_natCast] at hmoderate ⊢
    have hproduct := hnear.mul hpowerNear (Nat.cast_nonneg _) (by positivity)
    obtain ⟨result, hresult, hrounded, hround⟩ :=
      Magnitude.exists_mul? hproduct (by omega) hmoderate
    refine ⟨result, ?_, hround.trans hproduct, fun hvalue _ hshort => ?_⟩
    · rw [scaled?_whole (by omega), power?, hpower, Option.bind_some, hresult]
    · rwa [hvalue, hpowerValue (by omega)] at hrounded

/-- What has been scanned becomes a double next to it, and the nearest one if it is short. -/
theorem exists_ofScientific? (hpos : 0 < s.coefficient) (hbits : s.coefficient < twoTo 64)
    (hlow : -28 ≤ s.exponent) (hhigh : s.exponent ≤ 40) :
    ∃ m, ofScientific? s = some (.double (.finite s.negative m)) ∧
      IsNear 3 m.value (s.coefficient * 10 ^ s.exponent) ∧
      (s.coefficient < twoTo 53 → -22 ≤ s.exponent → s.exponent ≤ 0 →
        m.IsRounded (s.coefficient * 10 ^ s.exponent)) := by
  obtain ⟨m, hm, -, hnear⟩ := exists_ofNat? (hbits.trans_le (twoTo_le_twoTo (by decide)))
  obtain ⟨result, hresult, hresultNear, hrounded⟩ := exists_scaled? hnear hpos hbits hlow hhigh
  refine ⟨result, ?_, hresultNear, fun hshort => hrounded (Magnitude.value_ofNat?_small hshort hm)⟩
  rw [ofScientific?, hm, Option.bind_eq_bind, Option.bind_some, hresult]
  rfl

end Conversion

section Scanning

theorem length_takeDigits_le (n : Nat) (digits : List Char) :
    (takeDigits n digits).2.length ≤ digits.length := by
  induction digits generalizing n with
  | nil => exact le_rfl
  | cons d rest ih =>
    rw [takeDigits]
    split
    case isTrue => exact (ih _).trans (Nat.le_succ _)
    case isFalse => exact le_rfl

/-- The exponent of what is scanned is no further off than there are digits. -/
theorem scan_bounds (negative : Bool) (whole fraction : List Char) :
    (scan negative whole fraction 0).coefficient < twoTo 64 ∧
      -(fraction.length : Int) ≤ (scan negative whole fraction 0).exponent ∧
      (scan negative whole fraction 0).exponent ≤ whole.length := by
  have hwhole := length_takeDigits_le 0 whole
  have hfraction := length_takeDigits_le (takeDigits 0 whole).1 fraction
  refine ⟨takeDigits_lt (takeDigits_lt (twoTo_pos 64) whole) fraction, ?_, ?_⟩
  all_goals
    simp only [scan]
    omega

/-- Digits around a point that write a positive number of at most 28 places and 40 digits before
them are read as a double next to it, and as the nearest one if they are few. -/
theorem exists_ofScientific?_scan (negative : Bool) (hwhole : ∀ d ∈ whole, d.isDigit = true)
    (hfraction : ∀ d ∈ fraction, d.isDigit = true) (hpos : 0 < digitsValue (whole ++ fraction))
    (hdigits : whole.length ≤ 40) (hplaces : fraction.length ≤ 28) :
    ∃ m, ofScientific? (scan negative whole fraction 0) = some (.double (.finite negative m)) ∧
      IsNear 4 m.value (digitsValue (whole ++ fraction) / 10 ^ fraction.length) ∧
      (digitsValue (whole ++ fraction) < twoTo 53 → fraction.length ≤ 22 →
        m.IsRounded (digitsValue (whole ++ fraction) / 10 ^ fraction.length)) := by
  obtain ⟨hbits, hlow, hhigh⟩ := scan_bounds negative whole fraction
  have hscan := scan_isNear negative hwhole hfraction
  have hpositive : 0 < (scan negative whole fraction 0).coefficient := by
    have hvalue : (0 : ℚ) < digitsValue (whole ++ fraction) / 10 ^ fraction.length :=
      div_pos (Nat.cast_pos.mpr hpos) (by positivity)
    exact Nat.cast_pos.mp (pos_of_mul_pos_left (hscan.pos hvalue) (by positivity))
  obtain ⟨m, hm, hnear, hrounded⟩ :=
    exists_ofScientific? hpositive hbits (by omega) (by omega)
  refine ⟨m, hm, hnear.trans hscan, fun hshort hshortPlaces => ?_⟩
  have hbound : digitsValue (whole ++ fraction) < twoTo 64 :=
    hshort.trans_le (twoTo_le_twoTo (by decide))
  rw [scan_eq hbound] at hrounded
  have hresult := hrounded hshort (by dsimp only; omega) (by dsimp only; omega)
  rwa [zpow_neg, zpow_natCast, ← div_eq_mul_inv] at hresult

end Scanning

section Texts

/-- Whether digits may stand before the point: a single zero, or digits without one in front. -/
def IsWhole (whole : List Char) : Prop :=
  whole = ['0'] ∨ (∀ d ∈ whole, d.isDigit = true) ∧ whole ≠ [] ∧ ∀ d ∈ whole.head?, d ≠ '0'

theorem IsWhole.isDigit (h : IsWhole whole) : ∀ d ∈ whole, d.isDigit = true := by
  rcases h with rfl | ⟨hdigits, -, -⟩
  · simp
  · exact hdigits

theorem IsWhole.exists_cons (h : IsWhole whole) :
    ∃ d others, whole = d :: others ∧ d.isDigit = true := by
  have hne : whole ≠ [] := by
    rcases h with rfl | ⟨-, hne, -⟩
    · simp
    · exact hne
  obtain ⟨d, others, rfl⟩ := List.exists_cons_of_ne_nil hne
  exact ⟨d, others, rfl, h.isDigit d List.mem_cons_self⟩

theorem isWhole_toDigits (n : Nat) : IsWhole (Nat.toDigits 10 n) := by
  rcases Nat.eq_zero_or_pos n with rfl | hn
  · exact .inl rfl
  · exact .inr ⟨fun _ => Scientific.isDigit_of_mem_toDigits, Nat.toDigits_ne_nil,
      Scientific.head_toDigits_ne_zero hn⟩

/-- Whether what follows a number does not go on with it. -/
def EndsNumber (rest : List Char) : Prop :=
  ∀ c ∈ rest.head?, c.isDigit = false ∧ c ≠ '.' ∧ Scientific.isExponentMark c = false

theorem endsNumber_nil : EndsNumber [] := by
  rintro c ⟨⟩

theorem readWhole_append (h : IsWhole whole) (hrest : ∀ c ∈ rest.head?, c.isDigit = false) :
    readWhole (whole ++ rest) = some (whole, rest) := by
  rcases h with rfl | ⟨hdigits, hne, hhead⟩
  · rfl
  · have hzero : ∀ others, whole ++ rest = '0' :: others → False := by
      intro others heq
      obtain ⟨d, more, rfl⟩ := List.exists_cons_of_ne_nil hne
      exact hhead d rfl (List.cons.inj heq).1
    have hspan : Scientific.spanDigits (whole ++ rest) = (whole, rest) :=
      span_append hdigits hrest
    rw [readWhole.eq_2 _ hzero, hspan]
    simp [hne]

theorem EndsNumber.readFraction (h : EndsNumber rest) :
    readFraction rest = some (none, rest) := by
  unfold JsonNumber.readFraction
  split
  · exact absurd rfl (h '.' rfl).2.1
  · rfl

theorem EndsNumber.readExponent (h : EndsNumber rest) :
    readExponent rest = some (none, rest) := by
  cases rest with
  | nil => rfl
  | cons c rest => rw [JsonNumber.readExponent, (h c rfl).2.2, if_neg Bool.false_ne_true]

/-- Digits that nothing follows are read as a whole. -/
theorem readUnsigned_whole (h : IsWhole whole) (hrest : EndsNumber rest) (negative : Bool) :
    readUnsigned negative (whole ++ rest) =
      (ofParts? negative whole none none).map fun n => (n, rest) := by
  rw [readUnsigned, readWhole_append h fun c hc => (hrest c hc).1]
  simp only [hrest.readFraction, hrest.readExponent, Option.bind_eq_bind, Option.bind_some,
    Option.pure_def]
  cases ofParts? negative whole none none <;> rfl

theorem readUnsigned_point (h : IsWhole whole) (hfraction : ∀ d ∈ fraction, d.isDigit = true)
    (hne : fraction ≠ []) (negative : Bool) :
    readUnsigned negative (whole ++ '.' :: fraction) =
      (ofParts? negative whole (some fraction) none).map fun n => (n, []) := by
  have hspan : Scientific.spanDigits fraction = (fraction, []) :=
    span_eq_iff.2 ⟨(List.append_nil fraction).symm, hfraction, by simp⟩
  have hempty : fraction.isEmpty = false := by simpa using hne
  have hread : readFraction ('.' :: fraction) = some (some fraction, []) := by
    rw [readFraction, hspan]
    simp only [hempty, Bool.false_eq_true, if_false]
  rw [readUnsigned, readWhole_append h (by rintro _ ⟨⟩; rfl)]
  simp only [hread, readExponent, Option.bind_eq_bind, Option.bind_some, Option.pure_def]
  cases ofParts? negative whole (some fraction) none <;> rfl

theorem readNumber_minus (s : List Char) : readNumber ('-' :: s) = readUnsigned true s := rfl

theorem readNumber_of_head_ne {s : List Char} (h : ∀ c ∈ s.head?, c ≠ '-') :
    readNumber s = readUnsigned false s := by
  unfold readNumber
  split
  · exact absurd rfl (h '-' rfl)
  · rfl

theorem readNumber_withSign (h : IsWhole whole) (negative : Bool) (rest : List Char) :
    readNumber (Scientific.withSign negative (whole ++ rest)) =
      readUnsigned negative (whole ++ rest) := by
  cases negative with
  | true => exact readNumber_minus _
  | false =>
    obtain ⟨d, others, rfl, hd⟩ := h.exists_cons
    apply readNumber_of_head_ne
    rintro c ⟨⟩ rfl
    cases hd

theorem ofText?_eq {s : List Char} {number : Option JsonNumber}
    (h : readNumber s = number.map fun n => (n, [])) : ofText? s = number := by
  rw [ofText?, h]
  cases number <;> rfl

theorem ofText?_whole (h : IsWhole whole) (negative : Bool) :
    ofText? (Scientific.withSign negative whole) = ofParts? negative whole none none := by
  have hread := readNumber_withSign h negative []
  rw [readUnsigned_whole h endsNumber_nil, List.append_nil] at hread
  exact ofText?_eq hread

theorem ofText?_point (h : IsWhole whole) (hfraction : ∀ d ∈ fraction, d.isDigit = true)
    (hne : fraction ≠ []) (negative : Bool) :
    ofText? (Scientific.withSign negative (whole ++ '.' :: fraction)) =
      ofScientific? (scan negative whole fraction 0) := by
  have hread := readNumber_withSign h negative ('.' :: fraction)
  rw [readUnsigned_point h hfraction hne] at hread
  rw [ofText?_eq hread, ofParts?]
  simp only [Option.isNone_some, Bool.and_false, Bool.false_and, Bool.false_eq_true, if_false,
    Option.getD_some, Option.getD_none]

end Texts

section Integers

variable {i : Int}

theorem takeDigits_toDigits {n : Nat} (hn : n < twoTo 64) :
    takeDigits 0 (Nat.toDigits 10 n) = (n, []) := by
  have hvalue : continued 0 ((Nat.toDigits 10 n).map digitValue) = n := by
    rw [← digitsValue_eq_continued, Scientific.digitsValue_toDigits]
  have htake := takeDigits_eq (hvalue.trans_lt hn)
  rwa [hvalue] at htake

/-- What 64 bits do not hold is not taken as a whole. -/
theorem takeDigits_toDigits_ne_nil {n : Nat} (hn : twoTo 64 ≤ n) :
    (takeDigits 0 (Nat.toDigits 10 n)).2 ≠ [] := by
  intro hall
  obtain ⟨taken, hsplit, hvalue, -⟩ :=
    takeDigits_spec 0 fun d hd => Scientific.isDigit_of_mem_toDigits (n := n) hd
  rw [hall, List.append_nil] at hsplit
  rw [← hsplit, ← digitsValue_eq_continued, Scientific.digitsValue_toDigits] at hvalue
  have hlt := takeDigits_lt (twoTo_pos 64) (Nat.toDigits 10 n)
  omega

/-- An integer of 64 bits is read as it is. -/
theorem ofParts?_integer (hlow : minInteger ≤ i) (hhigh : i ≤ maxInteger) :
    ofParts? (i < 0) (Nat.toDigits 10 i.natAbs) none none = some (.integer i) := by
  have hbounds : -(twoTo 63 : Int) ≤ i ∧ i ≤ (twoTo 64 : Int) - 1 := ⟨hlow, hhigh⟩
  have hhalf : twoTo 63 < twoTo 64 := by decide
  rw [ofParts?, takeDigits_toDigits (show i.natAbs < twoTo 64 by omega)]
  simp only [List.isEmpty_nil, Option.isNone_none, Bool.and_self, if_true]
  by_cases hsign : i < 0
  · have hnatAbs : -(i.natAbs : Int) = i := by omega
    have hrange : i.natAbs ≠ 0 ∧ i.natAbs ≤ twoTo 63 := by omega
    rw [decide_eq_true hsign, Bool.not_true, if_neg Bool.false_ne_true, if_pos hrange, hnatAbs]
  · have hnatAbs : (i.natAbs : Int) = i := by omega
    rw [decide_eq_false hsign, Bool.not_false, if_pos rfl, hnatAbs]

/-- A wider integer is scanned. -/
theorem ofParts?_wide (hwide : i < minInteger ∨ maxInteger < i) :
    ofParts? (i < 0) (Nat.toDigits 10 i.natAbs) none none =
      ofScientific? (scan (i < 0) (Nat.toDigits 10 i.natAbs) [] 0) := by
  have hbounds : i < -(twoTo 63 : Int) ∨ (twoTo 64 : Int) - 1 < i := hwide
  rw [ofParts?]
  rcases Nat.lt_or_ge i.natAbs (twoTo 64) with hfits | hgreat
  · -- only a negative integer can be wide with so few bits
    have hsign : i < 0 := by omega
    have hrange : ¬ (i.natAbs ≠ 0 ∧ i.natAbs ≤ twoTo 63) := by omega
    rw [takeDigits_toDigits hfits]
    simp only [List.isEmpty_nil, Option.isNone_none, Bool.and_self, if_true, decide_eq_true hsign,
      Bool.not_true, Bool.false_eq_true, if_false, if_neg hrange, Option.getD_none]
  · have hleft := takeDigits_toDigits_ne_nil hgreat
    rw [← List.isEmpty_eq_false_iff] at hleft
    simp only [hleft, Bool.false_and, Bool.false_eq_true, if_false, Option.getD_none]

end Integers

end JsonNumber

end DocMatch
