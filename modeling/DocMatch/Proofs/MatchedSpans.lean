import DocMatch.Regex.Matching
import Mathlib.Data.Nat.Bitwise
import Mathlib.Logic.Function.Iterate
/-!
What a regular expression matches.  The spans of an expression are pairs of places, given by
recursion over the expression without a search; the search takes a set of places to just the places
where a span ends that starts in the set.
-/

namespace DocMatch.Regex

/-- Whether `j` is reached from `i` in just as many rounds. -/
def Rounds (r : Nat → Nat → Prop) : Nat → Nat → Nat → Prop
  | 0, i, j => i = j
  | count + 1, i, j => ∃ k, r i k ∧ Rounds r count k j

/-- Whether an expression matches what is between two places of a text. -/
def Expr.Spans (text : Array Char) : Expr Atom → Nat → Nat → Prop
  | .empty, i, j => i = j
  | .atom (.char set), i, j => j = i + 1 ∧ ∃ c, text[i]? = some c ∧ set.contains c.toNat = true
  | .atom (.look l), i, j => i = j ∧ l.holds text i = true
  | .seq a b, i, j => ∃ k, a.Spans text i k ∧ b.Spans text k j
  | .alt a b, i, j => a.Spans text i j ∨ b.Spans text i j
  | .iterate a least most, i, j =>
      ∃ count, least ≤ count ∧ (∀ m, most = some m → count ≤ max m least) ∧
        Rounds (a.Spans text) count i j

section Rounds

variable {r : Nat → Nat → Prop} {places i j m n : Nat}

theorem rounds_add : Rounds r (m + n) i j ↔ ∃ k, Rounds r m i k ∧ Rounds r n k j := by
  induction m generalizing i with
  | zero =>
    rw [Nat.zero_add]
    constructor
    · intro h
      exact ⟨i, rfl, h⟩
    · rintro ⟨_, rfl, h⟩
      exact h
  | succ m ih =>
    rw [Nat.add_right_comm]
    constructor
    · rintro ⟨k, hk, hrest⟩
      obtain ⟨l, hfirst, hsecond⟩ := ih.mp hrest
      exact ⟨l, ⟨k, hk, hfirst⟩, hsecond⟩
    · rintro ⟨l, ⟨k, hk, hfirst⟩, hsecond⟩
      exact ⟨k, hk, ih.mpr ⟨l, hfirst, hsecond⟩⟩

/-- Rounds that may stand still are up to as many proper ones. -/
theorem rounds_or_stay : Rounds (fun i j => i = j ∨ r i j) n i j ↔ ∃ k ≤ n, Rounds r k i j := by
  induction n generalizing i with
  | zero =>
    constructor
    · intro h
      exact ⟨0, le_rfl, h⟩
    · rintro ⟨k, hk, h⟩
      cases Nat.le_zero.mp hk
      exact h
  | succ n ih =>
    constructor
    · rintro ⟨l, rfl | hl, hrest⟩
      · obtain ⟨k, hk, h⟩ := ih.mp hrest
        exact ⟨k, Nat.le_succ_of_le hk, h⟩
      · obtain ⟨k, hk, h⟩ := ih.mp hrest
        exact ⟨k + 1, Nat.succ_le_succ hk, l, hl, h⟩
    · rintro ⟨k, hk, h⟩
      cases k with
      | zero => exact ⟨i, .inl rfl, ih.mpr ⟨0, Nat.zero_le n, h⟩⟩
      | succ k =>
        obtain ⟨l, hl, hrest⟩ := h
        exact ⟨l, .inr hl, ih.mpr ⟨k, Nat.le_of_succ_le_succ hk, hrest⟩⟩

/-- Whether a relation goes forward and stays among the places. -/
def Forward (places : Nat) (r : Nat → Nat → Prop) : Prop :=
  ∀ i j, i < places → r i j → i ≤ j ∧ j < places

theorem Forward.rounds (hr : Forward places r) (n : Nat) : Forward places (Rounds r n) := by
  induction n with
  | zero =>
    rintro i _ hi rfl
    exact ⟨le_rfl, hi⟩
  | succ n ih =>
    rintro i j hi ⟨k, hk, hrest⟩
    obtain ⟨hik, hk'⟩ := hr i k hi hk
    obtain ⟨hkj, hj⟩ := ih k j hk' hrest
    exact ⟨hik.trans hkj, hj⟩

/-- Only as many rounds are needed as there are characters. -/
theorem Forward.exists_rounds (hr : Forward places r) (hi : i < places) (h : Rounds r n i j) :
    ∃ k ≤ j - i, Rounds r k i j := by
  induction n generalizing i with
  | zero => exact ⟨0, Nat.zero_le _, h⟩
  | succ n ih =>
    obtain ⟨l, hl, hrest⟩ := h
    obtain ⟨hil, hl'⟩ := hr i l hi hl
    obtain ⟨k, hk, hshort⟩ := ih hl' hrest
    obtain ⟨hlj, -⟩ := hr.rounds n l j hl' hrest
    rcases hil.eq_or_lt with rfl | hlt
    · exact ⟨k, hk, hshort⟩
    · exact ⟨k + 1, by omega, l, hl, hshort⟩

end Rounds

section Sets

variable {f g : Nat → Nat} {r q : Nat → Nat → Prop} {places n starts : Nat}

/-- Whether a set holds places only. -/
def Within (places starts : Nat) : Prop :=
  ∀ i, starts.testBit i = true → i < places

/-- Whether a function takes a set of places to those that a relation leads to from it. -/
def Carries (places : Nat) (f : Nat → Nat) (r : Nat → Nat → Prop) : Prop :=
  ∀ starts, Within places starts →
    ∀ j, (f starts).testBit j = true ↔ ∃ i, starts.testBit i = true ∧ r i j

theorem Carries.within (hf : Carries places f r) (hr : Forward places r)
    (hstarts : Within places starts) : Within places (f starts) := by
  intro j hj
  obtain ⟨i, hi, hij⟩ := (hf starts hstarts j).mp hj
  exact (hr i j (hstarts i hi) hij).2

theorem Carries.comp (hf : Carries places f r) (hr : Forward places r) (hg : Carries places g q) :
    Carries places (fun starts => g (f starts)) fun i j => ∃ k, r i k ∧ q k j := by
  intro starts hstarts j
  rw [hg (f starts) (hf.within hr hstarts)]
  constructor
  · rintro ⟨k, hk, hkj⟩
    obtain ⟨i, hi, hik⟩ := (hf starts hstarts k).mp hk
    exact ⟨i, hi, k, hik, hkj⟩
  · rintro ⟨i, hi, k, hik, hkj⟩
    exact ⟨k, (hf starts hstarts k).mpr ⟨i, hi, hik⟩, hkj⟩

theorem Carries.union (hf : Carries places f r) (hg : Carries places g q) :
    Carries places (fun starts => f starts ||| g starts) fun i j => r i j ∨ q i j := by
  intro starts hstarts j
  rw [Nat.testBit_or, Bool.or_eq_true, hf starts hstarts, hg starts hstarts]
  constructor
  · rintro (⟨i, hi, hij⟩ | ⟨i, hi, hij⟩)
    · exact ⟨i, hi, .inl hij⟩
    · exact ⟨i, hi, .inr hij⟩
  · rintro ⟨i, hi, hij | hij⟩
    · exact .inl ⟨i, hi, hij⟩
    · exact .inr ⟨i, hi, hij⟩

theorem carries_id (places : Nat) : Carries places id Eq := by
  intro starts _ j
  constructor
  · intro hj
    exact ⟨j, hj, rfl⟩
  · rintro ⟨_, hj, rfl⟩
    exact hj

theorem Carries.iterate (hf : Carries places f r) (hr : Forward places r) (n : Nat) :
    Carries places f^[n] (Rounds r n) := by
  induction n with
  | zero => exact carries_id places
  | succ n ih => exact hf.comp hr ih

theorem iterateExactly_eq (f : Nat → Nat) (count starts : Nat) :
    iterateExactly f count starts = f^[count] starts := by
  induction count generalizing starts with
  | zero => rfl
  | succ count ih =>
    rw [iterateExactly, Function.iterate_succ_apply]
    split
    case isTrue hfixed => rw [hfixed, Function.iterate_fixed hfixed]
    case isFalse => exact ih _

theorem iterateUpTo_eq (f : Nat → Nat) (count starts : Nat) :
    iterateUpTo f count starts = (fun places => places ||| f places)^[count] starts := by
  induction count generalizing starts with
  | zero => rfl
  | succ count ih =>
    rw [iterateUpTo, Function.iterate_succ_apply]
    split
    case isTrue hfixed =>
      have hstays : (fun places => places ||| f places) starts = starts := hfixed
      rw [hfixed, Function.iterate_fixed hstays]
    case isFalse => exact ih _

theorem forward_eq (places : Nat) : Forward places Eq := by
  rintro i _ hi rfl
  exact ⟨le_rfl, hi⟩

theorem Forward.or (hr : Forward places r) (hq : Forward places q) :
    Forward places fun i j => r i j ∨ q i j :=
  fun i j hi h => h.elim (hr i j hi) (hq i j hi)

theorem Carries.iterateUpTo (hf : Carries places f r) (hr : Forward places r) (n : Nat) :
    Carries places (iterateUpTo f n) fun i j => ∃ k ≤ n, Rounds r k i j := by
  have hstay := ((carries_id places).union hf).iterate ((forward_eq places).or hr) n
  intro starts hstarts j
  rw [iterateUpTo_eq]
  refine (hstay starts hstarts j).trans ?_
  simp only [rounds_or_stay]

theorem testBit_placesWhere (p : Nat → Bool) (size i : Nat) :
    (placesWhere p size).testBit i = (decide (i < size) && p i) := by
  induction size with
  | zero => simp [placesWhere]
  | succ size ih =>
    have hlast : (if p size then 1 <<< size else 0).testBit i =
        (decide (size = i) && p size) := by
      rw [apply_ite (Nat.testBit · i), Nat.one_shiftLeft, Nat.testBit_two_pow, Nat.zero_testBit]
      cases p size <;> simp
    rw [placesWhere, Nat.testBit_or, ih, hlast]
    rcases Nat.lt_trichotomy i size with hlt | rfl | hgt
    · simp [hlt, Nat.lt_succ_of_lt hlt, hlt.ne']
    · simp
    · simp [hgt.ne, hgt.not_gt, show ¬ i < size + 1 by omega]

end Sets

section Search

variable {text : Array Char} {e : Expr Atom} {i j : Nat}

/-- A match goes forward and does not leave the text. -/
theorem Expr.spans_forward (text : Array Char) (e : Expr Atom) :
    Forward (text.size + 1) (e.Spans text) := by
  induction e with
  | empty =>
    rintro i _ hi rfl
    exact ⟨le_rfl, hi⟩
  | atom a =>
    cases a with
    | char set =>
      rintro i _ - ⟨rfl, c, hc, -⟩
      obtain ⟨hlt, -⟩ := Array.getElem?_eq_some_iff.mp hc
      exact ⟨Nat.le_succ i, Nat.succ_lt_succ hlt⟩
    | look l =>
      rintro i _ hi ⟨rfl, -⟩
      exact ⟨le_rfl, hi⟩
  | seq a b iha ihb =>
    rintro i j hi ⟨k, hik, hkj⟩
    obtain ⟨hle, hk⟩ := iha i k hi hik
    obtain ⟨hle', hj⟩ := ihb k j hk hkj
    exact ⟨hle.trans hle', hj⟩
  | alt a b iha ihb => exact iha.or ihb
  | iterate a least most ih =>
    rintro i j hi ⟨count, -, -, h⟩
    exact ih.rounds count i j hi h

/-- The search finds the ends of the spans of an atom. -/
theorem Atom.carries (text : Array Char) (a : Atom) :
    Carries (text.size + 1) (fun starts => (a.place text).ends starts) ((Expr.atom a).Spans text) := by
  intro starts hstarts j
  cases a with
  | char set =>
    simp only [Atom.place, Placed.ends, Nat.testBit_shiftLeft, Nat.testBit_and,
      testBit_placesWhere, Bool.and_eq_true, decide_eq_true_eq, Option.any_eq_true]
    constructor
    · rintro ⟨hpos, hstart, -, c, hc, hset⟩
      exact ⟨j - 1, hstart, by omega, c, hc, hset⟩
    · rintro ⟨i, hi, rfl, c, hc, hset⟩
      obtain ⟨hlt, -⟩ := Array.getElem?_eq_some_iff.mp hc
      exact ⟨Nat.succ_pos i, hi, hlt, c, hc, hset⟩
  | look l =>
    simp only [Atom.place, Placed.ends, Nat.testBit_and, testBit_placesWhere, Bool.and_eq_true,
      decide_eq_true_eq]
    constructor
    · rintro ⟨hstart, -, hl⟩
      exact ⟨j, hstart, rfl, hl⟩
    · rintro ⟨_, hi, rfl, hl⟩
      exact ⟨hi, hstarts _ hi, hl⟩

/-- The search finds the ends of the spans of a repetition. -/
theorem carries_repetition {f : Nat → Nat} {r : Nat → Nat → Prop} {places : Nat}
    (hf : Carries places f r) (hr : Forward places r) (least : Nat) (most : Option Nat) :
    Carries places
      (fun starts => iterateUpTo f (most.elim places (· - least)) (iterateExactly f least starts))
      fun i j => ∃ count, least ≤ count ∧ (∀ m, most = some m → count ≤ max m least) ∧
        Rounds r count i j := by
  have hexact : Carries places (iterateExactly f least) (Rounds r least) := by
    rw [funext (iterateExactly_eq f least)]
    exact hf.iterate hr least
  have hboth := hexact.comp (hr.rounds least) (hf.iterateUpTo hr (most.elim places (· - least)))
  intro starts hstarts j
  refine (hboth starts hstarts j).trans (exists_congr fun i => and_congr_right fun hi => ?_)
  constructor
  · rintro ⟨k, hik, extra, hextra, hkj⟩
    refine ⟨least + extra, Nat.le_add_right _ _, ?_, rounds_add.mpr ⟨k, hik, hkj⟩⟩
    rintro m rfl
    rw [Option.elim_some] at hextra
    omega
  · rintro ⟨count, hleast, hmost, h⟩
    obtain ⟨extra, rfl⟩ := Nat.exists_eq_add_of_le hleast
    obtain ⟨k, hik, hkj⟩ := rounds_add.mp h
    refine ⟨k, hik, ?_⟩
    cases most with
    | some m =>
      have hcount := hmost m rfl
      exact ⟨extra, by rw [Option.elim_some]; omega, hkj⟩
    | none =>
      -- more rounds than there are characters are not needed
      obtain ⟨-, hk⟩ := hr.rounds least i k (hstarts i hi) hik
      obtain ⟨-, hj⟩ := hr.rounds extra k j hk hkj
      obtain ⟨fewer, hfewer, hshort⟩ := hr.exists_rounds hk hkj
      exact ⟨fewer, by rw [Option.elim_none]; omega, hshort⟩

/-- The search takes a set of places to the ends of the spans that start there. -/
theorem Expr.carries_ends (text : Array Char) (e : Expr Atom) :
    Carries (text.size + 1) ((e.map (Atom.place text)).ends (text.size + 1)) (e.Spans text) := by
  induction e with
  | empty => exact carries_id _
  | atom a => exact a.carries text
  | seq a b iha ihb => exact iha.comp (a.spans_forward text) ihb
  | alt a b iha ihb => exact iha.union ihb
  | iterate a least most ih =>
    cases most with
    | none => exact carries_repetition ih (a.spans_forward text) least none
    | some m => exact carries_repetition ih (a.spans_forward text) least (some m)

theorem testBit_twoTo_sub_one (places i : Nat) :
    (twoTo places - 1).testBit i = decide (i < places) :=
  Nat.testBit_two_pow_sub_one places i

/-- A text matches if some part of it is a span of the expression. -/
theorem isMatch_iff (r : Regex) (s : String) : isMatch r s = true ↔
    ∃ i j, i ≤ s.toList.length ∧ r.expr.Spans s.toList.toArray i j := by
  have hall : Within (s.toList.toArray.size + 1) (twoTo (s.toList.toArray.size + 1) - 1) := by
    intro i hi
    rw [testBit_twoTo_sub_one] at hi
    exact of_decide_eq_true hi
  have hends := r.expr.carries_ends s.toList.toArray _ hall
  rw [isMatch, bne_iff_ne]
  constructor
  · intro hne
    obtain ⟨j, hj⟩ := Nat.exists_testBit_of_ne_zero hne
    obtain ⟨i, hi, hspan⟩ := (hends j).mp hj
    exact ⟨i, j, Nat.le_of_lt_succ (hall i hi), hspan⟩
  · rintro ⟨i, j, hi, hspan⟩ hzero
    have hstart : (twoTo (s.toList.toArray.size + 1) - 1).testBit i = true := by
      rw [testBit_twoTo_sub_one]
      exact decide_eq_true (Nat.lt_succ_of_le hi)
    have hj := (hends j).mpr ⟨i, hstart, hspan⟩
    rw [hzero, Nat.zero_testBit] at hj
    cases hj

/-- Between the marks of the start and the end of the text a whole text has to be a span. -/
theorem isMatch_anchored {r : Regex}
    (hr : r.expr = .sequence [.atom (.look .textStart), e, .atom (.look .textEnd)]) (s : String) :
    isMatch r s = true ↔ e.Spans s.toList.toArray 0 s.toList.length := by
  rw [isMatch_iff, hr]
  constructor
  · rintro ⟨i, j, -, _, ⟨rfl, hstart⟩, _, hspan, rfl, hend⟩
    cases eq_of_beq hstart
    cases eq_of_beq hend
    exact hspan
  · intro hspan
    exact ⟨0, _, Nat.zero_le _, 0, ⟨rfl, rfl⟩, _, hspan, rfl, beq_self_eq_true _⟩

end Search

end DocMatch.Regex
