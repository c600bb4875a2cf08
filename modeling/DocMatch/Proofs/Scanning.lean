import DocMatch.Number.Scientific
import DocMatch.Text.Blank
import Mathlib.Data.List.TakeDrop
import Mathlib.Data.List.TakeWhile
/-!
Scanning a text from its two ends: the longest run of characters of a class at its start,
the number that a run of digits writes, and what is left without the blanks around it.
-/

namespace DocMatch

section Runs

variable {α : Type} {p : α → Bool} {s run rest : List α}

/-- A text is split after the longest run of a class: the run lies in the class, and what
follows does not start with a member of it. -/
theorem span_eq_iff :
    s.span p = (run, rest) ↔
      s = run ++ rest ∧ (∀ c ∈ run, p c = true) ∧ ∀ c ∈ rest.head?, p c = false := by
  rw [List.span_eq_takeWhile_dropWhile, Prod.mk.injEq]
  constructor
  · rintro ⟨rfl, rfl⟩
    refine ⟨List.takeWhile_append_dropWhile.symm, fun c => List.mem_takeWhile_imp, ?_⟩
    intro c hc
    have hhead := List.head?_dropWhile_not p s
    rwa [hc] at hhead
  · rintro ⟨rfl, hrun, hrest⟩
    have htake : rest.takeWhile p = [] ∧ rest.dropWhile p = rest := by
      cases rest with
      | nil => exact ⟨rfl, rfl⟩
      | cons c rest => simp [hrest c rfl]
    rw [List.takeWhile_append_of_pos hrun, List.dropWhile_append_of_pos hrun, htake.1, htake.2,
      List.append_nil]
    exact ⟨rfl, rfl⟩

theorem span_append (hrun : ∀ c ∈ run, p c = true) (hrest : ∀ c ∈ rest.head?, p c = false) :
    (run ++ rest).span p = (run, rest) :=
  span_eq_iff.2 ⟨rfl, hrun, hrest⟩

/-- Two splits of a text before the first occurrence of a delimiter are the same. -/
theorem append_cons_inj_of_not_mem {d : α} {run other rest following : List α}
    (heq : run ++ d :: rest = other ++ d :: following) (hrun : d ∉ run) (hother : d ∉ other) :
    run = other ∧ rest = following := by
  induction run generalizing other with
  | nil =>
      cases other with
      | nil => exact ⟨rfl, (List.cons.inj heq).2⟩
      | cons c other =>
          obtain ⟨rfl, -⟩ := List.cons.inj heq
          exact absurd List.mem_cons_self hother
  | cons c run ih =>
      cases other with
      | nil =>
          obtain ⟨rfl, -⟩ := List.cons.inj heq
          exact absurd List.mem_cons_self hrun
      | cons c' other =>
          obtain ⟨rfl, htails⟩ := List.cons.inj heq
          obtain ⟨rfl, rfl⟩ := ih htails (List.not_mem_of_not_mem_cons hrun)
            (List.not_mem_of_not_mem_cons hother)
          exact ⟨rfl, rfl⟩

end Runs

namespace Scientific

/-- The digits of a number write that number. -/
theorem digitsValue_toDigits (n : Nat) : digitsValue (Nat.toDigits 10 n) = n := by
  have hvalue : digitsValue = fun digits => Nat.ofDigitChars 10 digits 0 := by
    funext digits
    simp only [digitsValue, digitValue, Nat.ofDigitChars, Nat.mul_comm 10]
  rw [hvalue]
  exact Nat.ofDigitChars_ten_toDigits

theorem isDigit_of_mem_toDigits {n : Nat} {c : Char} (h : c ∈ Nat.toDigits 10 n) :
    c.isDigit = true :=
  Nat.isDigit_of_mem_toDigits (by decide) (by decide) h

theorem exists_toDigits_eq_cons (n : Nat) :
    ∃ d digits, Nat.toDigits 10 n = d :: digits ∧ d.isDigit = true := by
  obtain ⟨d, digits, hdigits⟩ : ∃ d digits, Nat.toDigits 10 n = d :: digits :=
    List.exists_cons_of_ne_nil Nat.toDigits_ne_nil
  exact ⟨d, digits, hdigits, isDigit_of_mem_toDigits (hdigits ▸ List.mem_cons_self)⟩

/-- Only zero is written with a zero in front. -/
theorem head_toDigits_ne_zero {n : Nat} (hn : 0 < n) :
    ∀ c ∈ (Nat.toDigits 10 n).head?, c ≠ '0' := by
  induction n using Nat.strongRecOn with
  | ind n ih =>
      by_cases hlt : n < 10
      · have hdigit : ∀ d < 10, 0 < d → d.digitChar ≠ '0' := by decide
        rw [Nat.toDigits_of_lt_base hlt]
        rintro c ⟨⟩
        exact hdigit n hlt hn
      · have hsmaller := ih (n / 10) (by omega) (by omega)
        obtain ⟨d, digits, hdigits, -⟩ := exists_toDigits_eq_cons (n / 10)
        rw [Nat.toDigits_of_base_le (by decide) (by omega), hdigits]
        rw [hdigits] at hsmaller
        exact hsmaller

end Scientific

namespace Text

/-- Whether a text has no blank at either end. -/
structure Trimmed (s : List Char) : Prop where
  head : ∀ c ∈ s.head?, isBlank c = false
  last : ∀ c ∈ s.getLast?, isBlank c = false

variable {s before after : List Char}

theorem trimLeft_append (hbefore : ∀ c ∈ before, isBlank c = true)
    (hs : ∀ c ∈ s.head?, isBlank c = false) : trimLeft (before ++ s) = s := by
  have hspan := span_append hbefore hs
  rw [List.span_eq_takeWhile_dropWhile] at hspan
  exact (Prod.mk.inj hspan).2

theorem trimRight_append (hafter : ∀ c ∈ after, isBlank c = true)
    (hs : ∀ c ∈ s.getLast?, isBlank c = false) : trimRight (s ++ after) = s := by
  have hreverse : trimLeft (after.reverse ++ s.reverse) = s.reverse := by
    apply trimLeft_append
    · simpa using hafter
    · rwa [List.head?_reverse]
  rw [trimRight, List.reverse_append]
  rw [trimLeft] at hreverse
  rw [hreverse, List.reverse_reverse]

/-- Blanks around a text are removed, and nothing else is. -/
theorem Trimmed.trim_append (hs : Trimmed s) (hbefore : ∀ c ∈ before, isBlank c = true)
    (hafter : ∀ c ∈ after, isBlank c = true) : trim (before ++ s ++ after) = s := by
  cases s with
  | nil =>
      have hall : ∀ c ∈ before ++ after, isBlank c = true := by
        intro c hc
        exact (List.mem_append.1 hc).elim (hbefore c) (hafter c)
      have hleft := trimLeft_append hall (s := []) (by simp)
      rw [List.append_nil] at hleft
      rw [List.append_nil, trim, hleft]
      rfl
  | cons c s =>
      rw [trim, List.append_assoc, trimLeft_append hbefore (by simpa using hs.head),
        trimRight_append hafter hs.last]

theorem Trimmed.trim_append_left (hs : Trimmed s) (hbefore : ∀ c ∈ before, isBlank c = true) :
    trim (before ++ s) = s := by
  have h : trim (before ++ s ++ []) = s := hs.trim_append hbefore (by simp)
  rwa [List.append_nil] at h

theorem Trimmed.trim_eq (hs : Trimmed s) : trim s = s := by
  have h : trim ([] ++ s) = s := hs.trim_append_left (by simp)
  rwa [List.nil_append] at h

theorem head_trimLeft (s : List Char) : ∀ c ∈ (trimLeft s).head?, isBlank c = false := by
  intro c hc
  have hhead := List.head?_dropWhile_not isBlank s
  rw [trimLeft] at hc
  rwa [hc] at hhead

/-- A text is what is left of it and the blanks that it ends with. -/
theorem exists_trimRight_append (s : List Char) :
    ∃ after, s = trimRight s ++ after ∧ ∀ c ∈ after, isBlank c = true := by
  refine ⟨(s.reverse.takeWhile isBlank).reverse, ?_, ?_⟩
  · rw [trimRight, ← List.reverse_append, List.takeWhile_append_dropWhile, List.reverse_reverse]
  · intro c hc
    exact List.mem_takeWhile_imp (List.mem_reverse.1 hc)

theorem last_trimRight (s : List Char) : ∀ c ∈ (trimRight s).getLast?, isBlank c = false := by
  rw [trimRight, List.getLast?_reverse]
  exact head_trimLeft s.reverse

theorem trimmed_trim (s : List Char) : Trimmed (trim s) := by
  refine ⟨?_, last_trimRight _⟩
  obtain ⟨after, heq, -⟩ := exists_trimRight_append (trimLeft s)
  intro c hc
  apply head_trimLeft s c
  rw [heq]
  rw [trim] at hc
  rw [List.head?_append, hc]
  rfl

theorem trim_subset (s : List Char) : trim s ⊆ s := by
  have hright : trim s ⊆ trimLeft s := by
    rw [trim, trimRight]
    intro c hc
    exact List.mem_reverse.1 ((List.dropWhile_sublist isBlank).subset (List.mem_reverse.1 hc))
  exact List.Subset.trans hright (List.dropWhile_sublist isBlank).subset

end Text

end DocMatch
