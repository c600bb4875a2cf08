import DocMatch.Number.Decimal
import DocMatch.Number.Double
import DocMatch.Proofs.Scanning
import Mathlib.Algebra.Order.Ring.Nat
import Mathlib.Tactic.Linarith
import Mathlib.Tactic.Ring
/-!
Number texts read as decimals and as doubles.  The reader of decimals takes up digits while they
fit and rounds the rest, so a text without an exponent is rounded to 28 places; an exponent beyond
28 is refused.  The reader of doubles keeps what the text says.
-/

namespace DocMatch

section Digits

variable {n : Nat} {digits : List Nat}

/-- A number with further digits after its own. -/
def continued (n : Nat) (digits : List Nat) : Nat :=
  digits.foldl (fun n d => n * 10 + d) n

theorem continued_append (n : Nat) (digits more : List Nat) :
    continued n (digits ++ more) = continued (continued n digits) more :=
  List.foldl_append

theorem tenTo_succ (n : Nat) : tenTo (n + 1) = tenTo n * 10 :=
  rfl

theorem continued_eq (n : Nat) (digits : List Nat) :
    continued n digits = n * tenTo digits.length + continued 0 digits := by
  induction digits generalizing n with
  | nil => exact (Nat.mul_one n).symm
  | cons d rest ih =>
    have hn : continued n (d :: rest) = continued (n * 10 + d) rest := rfl
    have hzero : continued 0 (d :: rest) = continued (0 * 10 + d) rest := rfl
    rw [hn, hzero, ih, ih (0 * 10 + d), List.length_cons, tenTo_succ]
    ring

theorem continued_zero_lt (hdigits : ∀ d ∈ digits, d < 10) :
    continued 0 digits < tenTo digits.length := by
  induction digits with
  | nil => exact tenTo_pos 0
  | cons d rest ih =>
    obtain ⟨hd, hrest⟩ := List.forall_mem_cons.mp hdigits
    have hcons : continued 0 (d :: rest) = continued (0 * 10 + d) rest := rfl
    have hle := Nat.mul_le_mul_right (tenTo rest.length) (Nat.le_of_lt_succ hd)
    have hlt := ih hrest
    rw [hcons, continued_eq, List.length_cons, tenTo_succ, Nat.zero_mul, Nat.zero_add]
    omega

theorem le_continued (n : Nat) (digits : List Nat) : n ≤ continued n digits := by
  rw [continued_eq]
  exact Nat.le_add_right_of_le (Nat.le_mul_of_pos_right n (tenTo_pos _))

theorem continued_replicate_zero (n k : Nat) : continued n (List.replicate k 0) = n * tenTo k := by
  have hzero : continued 0 (List.replicate k 0) = 0 := by
    induction k with
    | zero => rfl
    | succ k ih => exact ih
  rw [continued_eq, hzero, List.length_replicate, Nat.add_zero]

end Digits

namespace Decimal

variable {coefficient scale : Nat} {digits : List Nat}

/-- The first digit that is dropped tells how the rest is rounded. -/
theorem roundPlaces_continued {d : Nat} (hd : d < 10) (hdigits : ∀ d ∈ digits, d < 10) :
    roundPlaces (continued (coefficient * 10 + d) digits) (digits.length + 1) =
      if d < 5 then coefficient else coefficient + 1 := by
  have hpos := tenTo_pos digits.length
  have hrest := continued_zero_lt hdigits
  have hhalf : tenTo digits.length * 10 / 2 = 5 * tenTo digits.length := by omega
  rw [roundPlaces, continued_eq, tenTo_succ, hhalf]
  generalize tenTo digits.length = power at hpos hrest
  split
  case isTrue hlow =>
    have hle := Nat.mul_le_mul_right power (Nat.le_of_lt_succ hlow)
    have hge := Nat.zero_le (d * power)
    apply Nat.div_eq_of_lt_le <;> linarith
  case isFalse hhigh =>
    have hle := Nat.mul_le_mul_right power (Nat.le_of_lt_succ hd)
    have hge := Nat.mul_le_mul_right power (Nat.le_of_not_lt hhigh)
    apply Nat.div_eq_of_lt_le <;> linarith

/-- Digits are taken up to 28 places, and the rest is rounded. -/
theorem absorb_eq (hscale : scale ≤ maxScale) (hdigits : ∀ d ∈ digits, d < 10)
    (hfits : continued coefficient digits < coefficientBound) :
    absorb coefficient scale digits =
      if scale + digits.length ≤ maxScale then
        some (continued coefficient digits, scale + digits.length)
      else
        some (roundPlaces (continued coefficient digits) (scale + digits.length - maxScale),
          maxScale) := by
  induction digits generalizing coefficient scale with
  | nil => exact (if_pos hscale).symm
  | cons d rest ih =>
    obtain ⟨hd, hrest⟩ := List.forall_mem_cons.mp hdigits
    have hcons : continued coefficient (d :: rest) = continued (coefficient * 10 + d) rest := rfl
    rw [hcons] at hfits ⊢
    have hfit := (le_continued _ rest).trans_lt hfits
    rw [absorb, List.length_cons]
    by_cases hroom : scale < maxScale
    case pos =>
      rw [if_pos ⟨hroom, hfit⟩, ih hroom hrest hfits, Nat.add_right_comm scale 1, Nat.add_assoc]
    case neg =>
      have hfull : scale = maxScale := by omega
      have hplaces : scale + (rest.length + 1) - maxScale = rest.length + 1 := by omega
      have hbeyond : ¬ maxScale + (rest.length + 1) ≤ maxScale := by omega
      rw [if_neg fun hand => hroom hand.1, hplaces, roundPlaces_continued hd hrest, hfull,
        if_neg hbeyond]
      split
      case isTrue => rfl
      case isFalse hhigh => rw [if_pos (by omega)]

end Decimal

namespace Scientific

variable {base digits : List Char} {c n : Nat} {e : Int} {negative : Bool}

theorem digitsValue_eq_continued (digits : List Char) :
    digitsValue digits = continued 0 (digits.map digitValue) :=
  List.foldl_map.symm

theorem digitsValue_append (digits more : List Char) :
    digitsValue (digits ++ more) = continued (digitsValue digits) (more.map digitValue) := by
  rw [digitsValue_eq_continued, digitsValue_eq_continued, List.map_append, continued_append]

theorem digitsValue_replicate_append (k : Nat) (digits : List Char) :
    digitsValue (List.replicate k '0' ++ digits) = digitsValue digits := by
  have hzeros : digitsValue (List.replicate k '0') = 0 := by
    rw [digitsValue_eq_continued, List.map_replicate]
    exact (continued_replicate_zero 0 k).trans (Nat.zero_mul _)
  rw [digitsValue_append, hzeros, digitsValue_eq_continued]

theorem digitsValue_le_append (digits more : List Char) :
    digitsValue digits ≤ digitsValue (digits ++ more) := by
  rw [digitsValue_append]
  exact le_continued _ _

theorem digitValue_lt {d : Char} (hd : d.isDigit = true) : digitValue d < 10 := by
  simp only [Char.isDigit, Bool.and_eq_true, decide_eq_true_eq] at hd
  have hhigh : d.toNat ≤ 57 := hd.2
  have hzero : '0'.toNat = 48 := rfl
  unfold digitValue
  omega

theorem digitValues_lt (hdigits : ∀ d ∈ digits, d.isDigit = true) :
    ∀ d ∈ digits.map digitValue, d < 10 := by
  intro d hd
  obtain ⟨d', hd', rfl⟩ := List.mem_map.mp hd
  exact digitValue_lt (hdigits d' hd')

/-- Whether a text writes `c`, with `n` places of it after a point if it has one. -/
inductive Writes : List Char → Nat → Nat → Prop
  | whole {whole : List Char} (hwhole : ∀ d ∈ whole, d.isDigit = true) (hne : whole ≠ []) :
      Writes whole (digitsValue whole) 0
  | point {whole fraction : List Char} (hwhole : ∀ d ∈ whole, d.isDigit = true) (hne : whole ≠ [])
      (hfraction : ∀ d ∈ fraction, d.isDigit = true) :
      Writes (whole ++ '.' :: fraction) (digitsValue (whole ++ fraction)) fraction.length

theorem Writes.mem (h : Writes base c n) {d : Char} (hd : d ∈ base) :
    d.isDigit = true ∨ d = '.' := by
  cases h with
  | whole hwhole _ => exact .inl (hwhole d hd)
  | point hwhole _ hfraction =>
    rcases List.mem_append.mp hd with hd | hd
    · exact .inl (hwhole d hd)
    · rcases List.mem_cons.mp hd with rfl | hd
      · exact .inr rfl
      · exact .inl (hfraction d hd)

/-- It starts with a digit. -/
theorem Writes.exists_cons (h : Writes base c n) :
    ∃ d rest, base = d :: rest ∧ d.isDigit = true := by
  cases h with
  | whole hwhole hne =>
    obtain ⟨d, rest, rfl⟩ := List.exists_cons_of_ne_nil hne
    exact ⟨d, rest, rfl, hwhole d List.mem_cons_self⟩
  | point hwhole hne _ =>
    obtain ⟨d, rest, rfl⟩ := List.exists_cons_of_ne_nil hne
    exact ⟨d, _, rfl, hwhole d List.mem_cons_self⟩

/-- A text under a sign. -/
def withSign (negative : Bool) (base : List Char) : List Char :=
  if negative then '-' :: base else base

theorem splitSign_of_isDigit {d : Char} {rest : List Char} (hd : d.isDigit = true) :
    splitSign (d :: rest) = (false, d :: rest) := by
  unfold splitSign
  split
  case h_1 heq =>
    cases heq
    cases hd
  case h_2 heq =>
    cases heq
    cases hd
  case h_3 => rfl

theorem splitSign_withSign (h : Writes base c n) (negative : Bool) (more : List Char) :
    splitSign (withSign negative base ++ more) = (negative, base ++ more) := by
  obtain ⟨d, rest, rfl, hd⟩ := h.exists_cons
  cases negative with
  | false => exact splitSign_of_isDigit hd
  | true => rfl

theorem not_isExponentMark {d : Char} (hd : d.isDigit = true ∨ d = '.') :
    isExponentMark d = false := by
  rcases hd with hd | rfl
  · simp only [isExponentMark, Bool.or_eq_false_iff, beq_eq_false_iff_ne]
    constructor <;> rintro rfl <;> cases hd
  · rfl

theorem Writes.not_isExponentMark (h : Writes base c n) (negative : Bool) :
    ∀ d ∈ withSign negative base, (fun d => !isExponentMark d) d = true := by
  intro d hd
  have hmark : isExponentMark d = false := by
    cases negative with
    | false => exact Scientific.not_isExponentMark (h.mem hd)
    | true =>
      rcases List.mem_cons.mp hd with rfl | hd
      · rfl
      · exact Scientific.not_isExponentMark (h.mem hd)
  exact congrArg (!·) hmark

theorem splitExponent_withSign (h : Writes base c n) :
    splitExponent (withSign negative base) = (withSign negative base, none) := by
  have hspan := span_eq_iff.2 ⟨(List.append_nil _).symm, h.not_isExponentMark negative, by simp⟩
  rw [splitExponent, hspan]

theorem splitExponent_exponent (h : Writes base c n) (negative : Bool) (text : List Char) :
    splitExponent (withSign negative base ++ 'e' :: text) =
      (withSign negative base, some text) := by
  have hmark : ∀ d ∈ ('e' :: text).head?, (!isExponentMark d) = false := by
    rintro _ ⟨⟩
    rfl
  have hspan := span_append (h.not_isExponentMark negative) hmark
  rw [splitExponent, hspan]

/-- The sign of an exponent, which may be left out of one that is not negative. -/
def exponentText (e : Int) (plus : Bool) : List Char :=
  (if e < 0 then ['-'] else if plus then ['+'] else []) ++ Nat.toDigits 10 e.natAbs

theorem exponent?_exponentText (e : Int) (plus : Bool) :
    exponent? (exponentText e plus) = some e := by
  obtain ⟨d, rest, hcons, hd⟩ := exists_toDigits_eq_cons e.natAbs
  have hdigits : (Nat.toDigits 10 e.natAbs).all Char.isDigit = true :=
    List.all_eq_true.mpr fun _ => isDigit_of_mem_toDigits
  have hempty : (Nat.toDigits 10 e.natAbs).isEmpty = false := by rw [hcons]; rfl
  have hvalue := digitsValue_toDigits e.natAbs
  have hsplit : splitSign (exponentText e plus) = (decide (e < 0), Nat.toDigits 10 e.natAbs) := by
    unfold exponentText
    split_ifs with hneg hplus
    · rw [decide_eq_true hneg]
      rfl
    · rw [decide_eq_false hneg]
      rfl
    · rw [decide_eq_false hneg, List.nil_append, hcons]
      exact splitSign_of_isDigit hd
  rw [exponent?, hsplit]
  simp only [hempty, hdigits, hvalue, Bool.not_true, Bool.or_false, Bool.false_eq_true, if_false]
  split
  case isTrue hneg =>
    have hneg := of_decide_eq_true hneg
    exact congrArg some (by omega)
  case isFalse hneg =>
    have hneg := of_decide_eq_false (Bool.eq_false_iff.mpr hneg)
    exact congrArg some (by omega)

end Scientific

namespace Decimal

open Scientific

variable {base digits : List Char} {c n : Nat} {e : Int} {negative : Bool}

/-- What stands before and after the point of digits that have one put in: a zero and all of them,
after zeros if they are too few, or the first ones and the others. -/
inductive PointParts (digits : List Char) : List Char → List Char → Prop
  | padded {n : Nat} : PointParts digits ['0'] (List.replicate n '0' ++ digits)
  | split {whole fraction : List Char} (hne : whole ≠ []) (hparts : whole ++ fraction = digits) :
      PointParts digits whole fraction

theorem placePoint_eq (digits : List Char) (hn : n ≠ 0) :
    ∃ whole fraction, placePoint digits n = whole ++ '.' :: fraction ∧ fraction.length = n ∧
      PointParts digits whole fraction := by
  rw [placePoint, if_neg hn]
  rcases Nat.lt_or_ge n digits.length with hlong | hshort
  · have hpadding : n + 1 - digits.length = 0 := by omega
    rw [hpadding, List.replicate_zero, List.nil_append]
    refine ⟨_, _, rfl, ?_, .split ?_ (List.take_append_drop _ _)⟩
    · rw [List.length_drop]
      omega
    · apply List.ne_nil_of_length_pos
      rw [List.length_take]
      omega
  · have hpadding : n + 1 - digits.length = n - digits.length + 1 := by omega
    have hlength : (List.replicate (n + 1 - digits.length) '0' ++ digits).length - n = 1 := by
      rw [List.length_append, List.length_replicate]
      omega
    refine ⟨['0'], List.replicate (n - digits.length) '0' ++ digits, ?_, ?_, .padded⟩
    · dsimp only
      rw [hlength, hpadding, List.replicate_succ]
      rfl
    · rw [List.length_append, List.length_replicate]
      omega

/-- The parts are digits that write the same number. -/
theorem PointParts.isDigit {whole fraction : List Char} (h : PointParts digits whole fraction)
    (hdigits : ∀ d ∈ digits, d.isDigit = true) :
    whole ≠ [] ∧ (∀ d ∈ whole, d.isDigit = true) ∧ (∀ d ∈ fraction, d.isDigit = true) ∧
      digitsValue (whole ++ fraction) = digitsValue digits := by
  cases h with
  | @padded n =>
    refine ⟨by simp, by simp, ?_, digitsValue_replicate_append (n + 1) digits⟩
    intro d hd
    rcases List.mem_append.mp hd with hd | hd
    · cases List.eq_of_mem_replicate hd
      rfl
    · exact hdigits d hd
  | split hne hparts =>
    subst hparts
    exact ⟨hne, fun d hd => hdigits d (List.mem_append_left _ hd),
      fun d hd => hdigits d (List.mem_append_right _ hd), rfl⟩

theorem isDigitOrSeparator_of_isDigit {d : Char} (hd : d.isDigit = true) :
    isDigitOrSeparator d = true := by
  rw [isDigitOrSeparator, hd, Bool.true_or]

theorem filter_isDigit (hdigits : ∀ d ∈ digits, d.isDigit = true) :
    digits.filter Char.isDigit = digits :=
  List.filter_eq_self.mpr hdigits

/-- A whole number is read if it fits. -/
theorem readBase_digits (hdigits : ∀ d ∈ digits, d.isDigit = true) (hne : digits ≠ []) :
    readBase digits =
      if digitsValue digits < coefficientBound then some (digitsValue digits, 0) else none := by
  have hspan : digits.span isDigitOrSeparator = (digits, []) :=
    span_eq_iff.2 ⟨(List.append_nil digits).symm,
      fun d hd => isDigitOrSeparator_of_isDigit (hdigits d hd), by simp⟩
  obtain ⟨d, rest, rfl⟩ := List.exists_cons_of_ne_nil hne
  have hd := hdigits d List.mem_cons_self
  rw [readBase, hspan]
  simp only [List.drop_nil, List.append_nil, List.isEmpty_nil, Bool.true_or, Bool.true_and, hd,
    if_true, filter_isDigit hdigits]
  rfl

/-- The digits before a point have to fit, those after it are taken up. -/
theorem readBase_point {whole fraction : List Char} (hwhole : ∀ d ∈ whole, d.isDigit = true)
    (hne : whole ≠ []) (hfraction : ∀ d ∈ fraction, d.isDigit = true) :
    readBase (whole ++ '.' :: fraction) =
      if digitsValue whole < coefficientBound then
        absorb (digitsValue whole) 0 (fraction.map digitValue)
      else none := by
  have hspan : (whole ++ '.' :: fraction).span isDigitOrSeparator = (whole, '.' :: fraction) :=
    span_append (fun d hd => isDigitOrSeparator_of_isDigit (hwhole d hd)) (by rintro _ ⟨⟩; rfl)
  have hall : fraction.all isDigitOrSeparator = true :=
    List.all_eq_true.mpr fun d hd => isDigitOrSeparator_of_isDigit (hfraction d hd)
  obtain ⟨d, rest, rfl⟩ := List.exists_cons_of_ne_nil hne
  have hd := hwhole d List.mem_cons_self
  rw [readBase, hspan]
  simp only [List.drop_one, List.tail_cons, List.cons_append, List.isEmpty_cons, List.head?_cons,
    beq_self_eq_true, hall, Bool.false_or, Bool.true_and, hd, if_true, filter_isDigit hwhole,
    filter_isDigit hfraction]

/-- Digits around a point are read with 28 places, and the rest is rounded. -/
theorem readBase_of_writes (h : Writes base c n) (hfits : c < coefficientBound) :
    readBase base =
      if n ≤ maxScale then some (c, n) else some (roundPlaces c (n - maxScale), maxScale) := by
  cases h with
  | whole hwhole hne => rw [readBase_digits hwhole hne, if_pos hfits, if_pos (Nat.zero_le _)]
  | point hwhole hne hfraction =>
    rename_i whole fraction
    have hunits := (digitsValue_le_append whole fraction).trans_lt hfits
    have hall : continued (digitsValue whole) (fraction.map digitValue) < coefficientBound := by
      rwa [← digitsValue_append]
    have habsorb := absorb_eq (Nat.zero_le maxScale) (digitValues_lt hfraction) hall
    rw [← digitsValue_append, List.length_map, Nat.zero_add] at habsorb
    rw [readBase_point hwhole hne hfraction, if_pos hunits, habsorb]

/-- The decimal of a coefficient and an exponent, with places beyond 28 rounded. -/
def ofScientific? (s : Scientific) : Option Decimal :=
  if 0 ≤ s.exponent then ofScaled? s.negative (s.coefficient * tenTo s.exponent.toNat) 0
  else if s.exponent.natAbs ≤ maxScale then ofScaled? s.negative s.coefficient s.exponent.natAbs
  else ofScaled? s.negative (roundPlaces s.coefficient (s.exponent.natAbs - maxScale)) maxScale

theorem ofScientific?_places (negative : Bool) (c n : Nat) : ofScientific? ⟨negative, c, -n⟩ =
    if n ≤ maxScale then ofScaled? negative c n
    else ofScaled? negative (roundPlaces c (n - maxScale)) maxScale := by
  have hplaces : (-(n : Int)).natAbs = n := by omega
  cases n with
  | zero =>
    rw [ofScientific?, if_pos (show 0 ≤ -((0 : Nat) : Int) by decide), if_pos (Nat.zero_le _)]
    exact congrArg (ofScaled? negative · 0) (Nat.mul_one c)
  | succ n => rw [ofScientific?, if_neg (by dsimp only; omega), hplaces]

theorem ofScientific?_whole (negative : Bool) (c n : Nat) :
    ofScientific? ⟨negative, c, n⟩ = ofScaled? negative (c * tenTo n) 0 := by
  rw [ofScientific?, if_pos (Int.natCast_nonneg n), Int.toNat_natCast]

theorem stripZeros_zero (c : Nat) : stripZeros c 0 = (c, 0) :=
  rfl

/-- A whole number that does not fit is no decimal. -/
theorem ofScaled?_whole (negative : Bool) (c : Nat) (h : ¬ c < coefficientBound) :
    ofScaled? negative c 0 = none := by
  rw [ofScaled?, stripZeros_zero]
  apply dif_neg
  rintro ⟨hlt, -⟩
  apply h
  cases negative with
  | false => exact hlt
  | true => rwa [if_pos rfl, Int.natAbs_neg] at hlt

theorem splitSign_base (h : Writes base c n) :
    splitSign (withSign negative base) = (negative, base) := by
  have hsign := splitSign_withSign h negative []
  rwa [List.append_nil, List.append_nil] at hsign

theorem read?_withSign (h : Writes base c n) : read? (withSign negative base) =
    (readBase base).bind fun found => ofScaled? negative found.1 found.2 := by
  rw [read?, splitExponent_withSign h]
  dsimp only
  rw [splitSign_base h]
  rfl

/-- A whole number text is read as what it writes. -/
theorem read?_digits (hdigits : ∀ d ∈ digits, d.isDigit = true) (hne : digits ≠ []) :
    read? (withSign negative digits) = ofScaled? negative (digitsValue digits) 0 := by
  rw [read?_withSign (.whole hdigits hne), readBase_digits hdigits hne]
  split
  case isTrue => rfl
  case isFalse hgreat => exact (ofScaled?_whole negative _ hgreat).symm

theorem ofScaled?_mul_ten (negative : Bool) (c : Nat) :
    ofScaled? negative (c * 10) 1 = ofScaled? negative c 0 := by
  have hstrip : stripZeros (c * 10) 1 = stripZeros c 0 := by
    simp only [stripZeros, Nat.mul_mod_left, if_true, Nat.mul_div_cancel c (show 0 < 10 by decide)]
  rw [ofScaled?, ofScaled?, hstrip]

/-- So is one that ends in `.0`. -/
theorem read?_digits_point (hdigits : ∀ d ∈ digits, d.isDigit = true) (hne : digits ≠ []) :
    read? (withSign negative (digits ++ ['.', '0'])) =
      ofScaled? negative (digitsValue digits) 0 := by
  have hzero : ∀ d ∈ ['0'], d.isDigit = true := List.forall_mem_singleton.mpr rfl
  have hbase : readBase (digits ++ ['.', '0']) =
      if digitsValue digits < coefficientBound then absorb (digitsValue digits) 0 [0]
      else none := readBase_point hdigits hne hzero
  rw [read?_withSign (.point hdigits hne hzero : Writes (digits ++ ['.', '0']) _ _), hbase]
  by_cases hfits : digitsValue digits < coefficientBound
  case neg => rw [if_neg hfits, ofScaled?_whole negative _ hfits, Option.bind_none]
  case pos =>
    rw [if_pos hfits, absorb, absorb, Nat.add_zero, if_pos (show 0 < 5 by decide)]
    split
    case isTrue => exact ofScaled?_mul_ten negative _
    case isFalse => rfl

/-- A text without an exponent is read with 28 places. -/
theorem read?_of_writes (h : Writes base c n) (hfits : c < coefficientBound) :
    read? (withSign negative base) = ofScientific? ⟨negative, c, -n⟩ := by
  rw [read?_withSign h, readBase_of_writes h hfits, ofScientific?_places]
  split <;> rfl

/-- A text with an exponent is read if that is at most 28, and then with 28 places. -/
theorem read?_exponent (h : Writes base c n) (hfits : c < coefficientBound) (hn : n ≤ maxScale)
    (e : Int) (plus : Bool) : read? (withSign negative base ++ 'e' :: exponentText e plus) =
      if e.natAbs ≤ maxScale then ofScientific? ⟨negative, c, e - n⟩ else none := by
  rw [read?, splitExponent_exponent h]
  dsimp only
  rw [splitSign_base h]
  dsimp only
  rw [readBase_of_writes h hfits, if_pos hn]
  simp only [Option.bind_eq_bind, Option.bind_some, exponent?_exponentText, shiftPoint]
  by_cases hexponent : e.natAbs ≤ maxScale
  case neg => rw [if_pos (by omega), if_neg hexponent, Option.bind_none]
  case pos =>
    have hmaxScale : (maxScale : Int) = 28 := rfl
    rw [if_neg (by omega), if_pos hexponent]
    rcases lt_or_ge ((n : Int) - e) 0 with hwhole | hplaces
    · obtain ⟨k, hk⟩ := Int.eq_ofNat_of_zero_le (show 0 ≤ e - n by omega)
      rw [if_pos hwhole, hk, ofScientific?_whole, show ((n : Int) - e).natAbs = k by omega]
      rfl
    · obtain ⟨k, hk⟩ := Int.eq_ofNat_of_zero_le hplaces
      have hexponent : e - n = -k := by omega
      rw [if_neg (by omega), hexponent, ofScientific?_places, hk, Int.toNat_natCast]
      by_cases hk : k ≤ maxScale
      · rw [if_pos (by omega), if_pos hk]
        rfl
      · rw [if_neg (by omega), if_neg hk]
        rfl

end Decimal

namespace Double

open Scientific

variable {base : List Char} {c n : Nat} {negative : Bool}

theorem readDigits?_exponent (h : Writes base c n) (negative : Bool) (e : Int) (plus : Bool) :
    readDigits? negative (base ++ 'e' :: exponentText e plus) =
      some ⟨negative, c, e - n⟩ := by
  have hsplit := splitExponent_exponent h false (exponentText e plus)
  rw [withSign, if_neg Bool.false_ne_true] at hsplit
  rw [readDigits?, hsplit]
  cases h with
  | whole hwhole hne =>
    have hspan := span_eq_iff.2 ⟨(List.append_nil base).symm, hwhole, by simp⟩
    obtain ⟨d, rest, rfl⟩ := List.exists_cons_of_ne_nil hne
    simp only [spanDigits, hspan, exponent?_exponentText, Option.bind_eq_bind, Option.bind_some,
      List.isEmpty_cons, Bool.false_and, Bool.false_eq_true, if_false, ofParts, List.append_nil]
    rfl
  | point hwhole hne hfraction =>
    rename_i whole fraction
    have hspan : (whole ++ '.' :: fraction).span Char.isDigit = (whole, '.' :: fraction) :=
      span_append hwhole (by rintro _ ⟨⟩; rfl)
    have hall : fraction.all Char.isDigit = true := List.all_eq_true.mpr hfraction
    obtain ⟨d, rest, rfl⟩ := List.exists_cons_of_ne_nil hne
    simp only [spanDigits, hspan, hall, exponent?_exponentText, Option.bind_eq_bind,
      Option.bind_some, List.isEmpty_cons, Bool.false_and, Bool.false_eq_true, if_false, if_true,
      ofParts]
    rfl

/-- A text that starts with a digit is no name. -/
theorem lowered_ne {d : Char} (hd : d.isDigit = true) (rest : List Char) {name : String}
    (hname : ∀ d' ∈ name.toList.head?, d'.isDigit = false) : lowered (d :: rest) ≠ name := by
  rintro rfl
  have hlower : d.toLower = d := by
    simp only [Char.isDigit, Bool.and_eq_true, decide_eq_true_eq] at hd
    have hhigh : d.val.toNat ≤ 57 := hd.2
    apply dif_neg
    rintro ⟨hlow, -⟩
    have hlow : 65 ≤ d.val.toNat := hlow
    omega
  have hhead := hname d.toLower (by rw [lowered, String.toList_ofList]; rfl)
  rw [hlower, hd] at hhead
  cases hhead

/-- A text with an exponent is read as the double nearest to what it writes. -/
theorem read?_exponent (h : Writes base c n) (e : Int) (plus : Bool) :
    read? (withSign negative base ++ 'e' :: exponentText e plus) =
      some (ofScientific ⟨negative, c, e - n⟩) := by
  obtain ⟨d, rest, rfl, hd⟩ := h.exists_cons
  have hdigit : ∀ name : String, (∀ d' ∈ name.toList.head?, d'.isDigit = false) →
      (lowered (d :: (rest ++ 'e' :: exponentText e plus)) == name) = false :=
    fun name hname => beq_eq_false_iff_ne.mpr (lowered_ne hd _ hname)
  have hinf := hdigit "inf" (by rintro _ ⟨⟩; rfl)
  have hinfinity := hdigit "infinity" (by rintro _ ⟨⟩; rfl)
  have hnan := hdigit "nan" (by rintro _ ⟨⟩; rfl)
  rw [read?, splitSign_withSign h]
  simp only [List.cons_append, hinf, hinfinity, hnan, Bool.or_false, Bool.false_eq_true, if_false]
  have hread := readDigits?_exponent h negative e plus
  rw [List.cons_append] at hread
  rw [hread, Option.map_some]

end Double

end DocMatch
