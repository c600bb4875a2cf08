import DocMatch.Json.Basic
import DocMatch.Proofs.DecimalTexts
import DocMatch.Proofs.ShortestDigits
/-!
The two texts of a double as numbers.  Positional notation is read with 28 places and the rest is
rounded.  JSON notation, which has an exponent below `10 ^ -5` and from `10 ^ 16`, is read so too as
long as the exponent is at most 28; beyond that it is read as the double that it is the text of.
-/

namespace DocMatch

open Scientific

namespace Text

variable {s : List Char}

theorem trimmed_of_forall (h : ∀ c ∈ s, isBlank c = false) : Trimmed s :=
  ⟨fun c hc => h c (List.mem_of_mem_head? hc), fun c hc => h c (List.mem_of_mem_getLast? hc)⟩

theorem isBlank_of_isDigit {c : Char} (hc : c.isDigit = true) : isBlank c = false := by
  simp only [Char.isDigit, Bool.and_eq_true, decide_eq_true_eq] at hc
  have hlow : 48 ≤ c.toNat := hc.1
  have hhigh : c.toNat ≤ 57 := hc.2
  simp only [isBlank, Bool.or_eq_false_iff, Bool.and_eq_false_iff, decide_eq_false_iff_not,
    beq_eq_false_iff_ne]
  omega

end Text

namespace Scientific

variable {base digits : List Char} {c n : Nat} {negative : Bool}

theorem Writes.not_isBlank (h : Writes base c n) :
    ∀ d ∈ withSign negative base, Text.isBlank d = false := by
  have hbase : ∀ d ∈ base, Text.isBlank d = false := by
    intro d hd
    rcases h.mem hd with hd | rfl
    · exact Text.isBlank_of_isDigit hd
    · rfl
  cases negative with
  | false => exact hbase
  | true =>
    intro d hd
    rcases List.mem_cons.mp hd with rfl | hd
    · rfl
    · exact hbase d hd

theorem not_isBlank_exponentText (e : Int) (plus : Bool) :
    ∀ d ∈ exponentText e plus, Text.isBlank d = false := by
  intro d hd
  rcases List.mem_append.mp hd with hd | hd
  · split_ifs at hd
    · cases List.mem_singleton.mp hd
      rfl
    · cases List.mem_singleton.mp hd
      rfl
    · cases hd
  · exact Text.isBlank_of_isDigit (isDigit_of_mem_toDigits hd)

theorem Writes.trimmed (h : Writes base c n) : Text.Trimmed (withSign negative base) :=
  Text.trimmed_of_forall h.not_isBlank

theorem Writes.trimmed_exponent (h : Writes base c n) (e : Int) (plus : Bool) :
    Text.Trimmed (withSign negative base ++ 'e' :: exponentText e plus) := by
  apply Text.trimmed_of_forall
  intro d hd
  rcases List.mem_append.mp hd with hd | hd
  · exact h.not_isBlank d hd
  · rcases List.mem_cons.mp hd with rfl | hd
    · rfl
    · exact not_isBlank_exponentText e plus d hd

theorem digitsValue_append_replicate (digits : List Char) (k : Nat) :
    digitsValue (digits ++ List.replicate k '0') = digitsValue digits * tenTo k := by
  rw [digitsValue_append, List.map_replicate]
  exact continued_replicate_zero _ k

theorem isDigit_append_replicate (hdigits : ∀ d ∈ digits, d.isDigit = true) (k : Nat) :
    ∀ d ∈ digits ++ List.replicate k '0', d.isDigit = true := by
  intro d hd
  rcases List.mem_append.mp hd with hd | hd
  · exact hdigits d hd
  · cases List.eq_of_mem_replicate hd
    rfl

/-- Digits with a point before the last `n` of them. -/
theorem writes_placePoint (hdigits : ∀ d ∈ digits, d.isDigit = true) (hn : n ≠ 0) :
    Writes (Decimal.placePoint digits n) (digitsValue digits) n := by
  obtain ⟨whole, fraction, hplace, rfl, hparts⟩ := Decimal.placePoint_eq digits hn
  obtain ⟨hne, hwhole, hfraction, hvalue⟩ := hparts.isDigit hdigits
  rw [hplace, ← hvalue]
  exact .point hwhole hne hfraction

/-- Digits with a point after the first, if there are more. -/
def mantissa (digits : List Char) : List Char :=
  if digits.length ≤ 1 then digits else digits.take 1 ++ '.' :: digits.drop 1

theorem writes_mantissa (hdigits : ∀ d ∈ digits, d.isDigit = true) (hne : digits ≠ []) :
    Writes (mantissa digits) (digitsValue digits) (digits.length - 1) := by
  unfold mantissa
  split
  case isTrue hshort =>
    rw [Nat.sub_eq_zero_of_le hshort]
    exact .whole hdigits hne
  case isFalse hlong =>
    have htake : digits.take 1 ≠ [] := by
      apply List.ne_nil_of_length_pos
      rw [List.length_take]
      omega
    have hfraction : ∀ d ∈ digits.drop 1, d.isDigit = true :=
      fun d hd => hdigits d (List.mem_of_mem_drop hd)
    have hwrites := Writes.point (fun d hd => hdigits d (List.mem_of_mem_take hd)) htake hfraction
    rwa [List.take_append_drop, List.length_drop] at hwrites

end Scientific

namespace Magnitude

/-- The exponent of the first digit. -/
def leading (m : Magnitude) : Int :=
  m.shortest.2 + (Nat.toDigits 10 m.shortest.1).length - 1

theorem shortest_lt (m : Magnitude) : m.shortest.1 < tenTo 18 := by
  by_cases hm : m.significand = 0
  · rw [shortest, if_pos hm]
    exact tenTo_pos 18
  · exact (isShortest_shortest hm).coefficient_lt hm

theorem shortest_fits (m : Magnitude) : m.shortest.1 < Decimal.coefficientBound :=
  m.shortest_lt.trans (by decide)

theorem length_shortest (m : Magnitude) : (Nat.toDigits 10 m.shortest.1).length ≤ 18 :=
  (Nat.length_toDigits_le_iff (by decide) (by decide)).mpr m.shortest_lt

end Magnitude

namespace Layout

variable {m : Magnitude} {negative : Bool}

theorem toList_text (l : Layout) (negative : Bool) (m : Magnitude) :
    (l.text (.finite negative m)).toList = withSign negative (l.magnitudeDigits m) :=
  String.toList_ofList

theorem text_scientific {l : Layout} (h : l.isPositional m.leading = false) :
    (l.text (.finite negative m)).toList =
      withSign negative (mantissa (Nat.toDigits 10 m.shortest.1)) ++
        'e' :: exponentText m.leading l.plusSign := by
  have hdigits : l.magnitudeDigits m = mantissa (Nat.toDigits 10 m.shortest.1) ++
      'e' :: exponentText m.leading l.plusSign := by
    have hbranch : l.magnitudeDigits m =
        l.scientificDigits (Nat.toDigits 10 m.shortest.1) m.leading :=
      if_neg (Bool.eq_false_iff.mp h)
    rw [hbranch, scientificDigits, exponentText, List.append_assoc, List.cons_append]
    rfl
  rw [toList_text, hdigits]
  cases negative <;> rfl

theorem text_positional {l : Layout} (h : l.isPositional m.leading = true) :
    (l.text (.finite negative m)).toList =
      withSign negative (l.positionalDigits (Nat.toDigits 10 m.shortest.1) m.shortest.2) := by
  rw [toList_text, magnitudeDigits]
  exact congrArg (withSign negative) (if_pos h)

variable {l : Layout}

/-- Positional notation is read with 28 places. -/
theorem read?_positional (h : l.isPositional m.leading = true) :
    Decimal.read? (l.text (.finite negative m)).toList =
      Decimal.ofScientific? (m.shown negative) := by
  have hdigits : ∀ d ∈ Nat.toDigits 10 m.shortest.1, d.isDigit = true :=
    fun _ => isDigit_of_mem_toDigits
  have hvalue := digitsValue_toDigits m.shortest.1
  rw [text_positional h, positionalDigits]
  by_cases hwhole : 0 ≤ m.shortest.2
  · obtain ⟨k, hk⟩ := Int.eq_ofNat_of_zero_le hwhole
    have hzeros := isDigit_append_replicate hdigits k
    have hne : Nat.toDigits 10 m.shortest.1 ++ List.replicate k '0' ≠ [] :=
      List.append_ne_nil_of_left_ne_nil Nat.toDigits_ne_nil _
    have hshown : Decimal.ofScaled? negative
        (digitsValue (Nat.toDigits 10 m.shortest.1 ++ List.replicate k '0')) 0 =
          Decimal.ofScientific? (m.shown negative) := by
      rw [digitsValue_append_replicate, hvalue, Magnitude.shown, hk, Decimal.ofScientific?_whole]
    rw [if_pos hwhole, show m.shortest.2.toNat = k by omega]
    split
    case isTrue => exact (Decimal.read?_digits_point hzeros hne).trans hshown
    case isFalse =>
      rw [List.append_nil]
      exact (Decimal.read?_digits hzeros hne).trans hshown
  · obtain ⟨k, hk⟩ := Int.eq_ofNat_of_zero_le (show 0 ≤ -m.shortest.2 by omega)
    have hwrites := writes_placePoint hdigits (show k ≠ 0 by omega)
    rw [hvalue] at hwrites
    have hexponent : m.shortest.2 = -k := by omega
    rw [if_neg hwhole, show m.shortest.2.natAbs = k by omega, Magnitude.shown, hexponent]
    exact Decimal.read?_of_writes hwrites m.shortest_fits

/-- A text with an exponent is read as a decimal if the exponent is at most 28, and as the double
that it is the text of. -/
theorem read?_scientific (h : l.isPositional m.leading = false) (negative : Bool) :
    Decimal.read? (l.text (.finite negative m)).toList =
      (if m.leading.natAbs ≤ Decimal.maxScale then Decimal.ofScientific? (m.shown negative)
        else none) ∧
    Double.read? (l.text (.finite negative m)).toList = some (.finite negative m) := by
  have hdigits : ∀ d ∈ Nat.toDigits 10 m.shortest.1, d.isDigit = true :=
    fun _ => isDigit_of_mem_toDigits
  have hwrites := writes_mantissa hdigits Nat.toDigits_ne_nil
  rw [digitsValue_toDigits] at hwrites
  have hplaces : m.leading - ((Nat.toDigits 10 m.shortest.1).length - 1 : Nat) = m.shortest.2 := by
    have hpos : 0 < (Nat.toDigits 10 m.shortest.1).length := Nat.length_toDigits_pos
    unfold Magnitude.leading
    omega
  have hshort : (Nat.toDigits 10 m.shortest.1).length - 1 ≤ Decimal.maxScale := by
    have hlength := m.length_shortest
    have hmaxScale : Decimal.maxScale = 28 := rfl
    omega
  rw [text_scientific h]
  constructor
  · rw [Decimal.read?_exponent hwrites m.shortest_fits hshort, hplaces]
    rfl
  · rw [Double.read?_exponent hwrites, hplaces]
    exact congrArg some (Double.ofScientific_shown negative m)

theorem exists_writes_positional (l : Layout) (m : Magnitude) :
    ∃ c n, Writes (l.positionalDigits (Nat.toDigits 10 m.shortest.1) m.shortest.2) c n := by
  have hdigits : ∀ d ∈ Nat.toDigits 10 m.shortest.1, d.isDigit = true :=
    fun _ => isDigit_of_mem_toDigits
  have hzeros := isDigit_append_replicate hdigits m.shortest.2.toNat
  have hne : Nat.toDigits 10 m.shortest.1 ++ List.replicate m.shortest.2.toNat '0' ≠ [] :=
    List.append_ne_nil_of_left_ne_nil Nat.toDigits_ne_nil _
  rw [positionalDigits]
  split_ifs with hwhole hmark
  · have hzero : ∀ d ∈ ['0'], d.isDigit = true := List.forall_mem_singleton.mpr rfl
    exact ⟨_, _, .point hzeros hne hzero⟩
  · rw [List.append_nil]
    exact ⟨_, _, .whole hzeros hne⟩
  · exact ⟨_, _, writes_placePoint hdigits (by omega)⟩

/-- The text of a double has no blanks around it. -/
theorem trimmed_text (l : Layout) (negative : Bool) (m : Magnitude) :
    Text.Trimmed (l.text (.finite negative m)).toList := by
  cases h : l.isPositional m.leading with
  | true =>
    obtain ⟨c, n, hwrites⟩ := l.exists_writes_positional m
    rw [text_positional h]
    exact hwrites.trimmed
  | false =>
    rw [text_scientific h]
    exact (writes_mantissa (fun _ => isDigit_of_mem_toDigits) Nat.toDigits_ne_nil).trimmed_exponent
      _ _

end Layout

namespace Number

theorem read?_text (l : Layout) (negative : Bool) (m : Magnitude) :
    read? (l.text (.finite negative m)).toList =
      (Decimal.read? (l.text (.finite negative m)).toList).elim
        ((Double.read? (l.text (.finite negative m)).toList).map .double) (some ∘ .decimal) := by
  rw [read?, (l.trimmed_text negative m).trim_eq]
  cases Decimal.read? (l.text (.finite negative m)).toList <;> rfl

/-- A double becomes the decimal that its positional text is rounded to, if there is one. -/
theorem ofDouble_finite (negative : Bool) (m : Magnitude) :
    ofDouble (.finite negative m) =
      (Decimal.ofScientific? (m.shown negative)).elim (.double (.finite negative m)) .decimal := by
  rw [ofDouble, read?_text, Layout.read?_positional rfl]
  cases Decimal.ofScientific? (m.shown negative) with
  | some d => rfl
  | none =>
    cases Double.read? (Layout.plain.text (.finite negative m)).toList <;> rfl

/-- A JSON number written with an exponent becomes that decimal too if the exponent is at most
28. -/
theorem ofJson_scientific {negative : Bool} {m : Magnitude}
    (h : Layout.json.isPositional m.leading = false) :
    ofJson (.double (.finite negative m)) =
      if m.leading.natAbs ≤ Decimal.maxScale then ofDouble (.finite negative m)
      else .double (.finite negative m) := by
  obtain ⟨hdecimal, hdouble⟩ := Layout.read?_scientific h negative
  have htext : ofJson (.double (.finite negative m)) =
      (read? (Layout.json.text (.finite negative m)).toList).getD (.double (.finite negative m)) :=
    rfl
  rw [htext, read?_text, hdecimal, hdouble, ofDouble_finite]
  split
  · cases Decimal.ofScientific? (m.shown negative) <;> rfl
  · rfl

/-- One written positionally becomes that decimal if there is one. -/
theorem ofJson_positional {negative : Bool} {m : Magnitude} {d : Decimal}
    (h : Layout.json.isPositional m.leading = true)
    (hd : Decimal.ofScientific? (m.shown negative) = some d) :
    ofJson (.double (.finite negative m)) = .decimal d := by
  have htext : ofJson (.double (.finite negative m)) =
      (read? (Layout.json.text (.finite negative m)).toList).getD (.double (.finite negative m)) :=
    rfl
  rw [htext, read?_text, Layout.read?_positional h, hd]
  rfl

end Number

end DocMatch
