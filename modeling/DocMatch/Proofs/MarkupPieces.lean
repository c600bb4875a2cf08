import DocMatch.Markup.Decoded
import DocMatch.Markup.Printer
import DocMatch.Proofs.Scanning
import Mathlib.Data.List.Basic
/-!
Escaped texts and attribute values, and what they are decoded to.  An escaped character comes
back from its entity.  All others are taken as they stand, so blanks in an attribute value
become spaces, and in a text a carriage return becomes a line feed unless an entity follows.
-/

namespace DocMatch

namespace Element

/-- Whether a character is written as an entity. -/
def isEscaped (c : Char) : Bool :=
  c = '&' || c = '<' || c = '>' || c = '"'

theorem isEscaped_iff {c : Char} :
    isEscaped c = true ↔ c = '&' ∨ c = '<' ∨ c = '>' ∨ c = '"' := by
  simp [isEscaped, or_assoc]

theorem escapeChar_of_not_isEscaped {c : Char} (h : isEscaped c = false) : escapeChar c = [c] := by
  simp only [isEscaped, Bool.or_eq_false_iff, decide_eq_false_iff_not] at h
  obtain ⟨⟨⟨hamp, hlt⟩, hgt⟩, hquot⟩ := h
  rw [escapeChar, if_neg hamp, if_neg hlt, if_neg hgt, if_neg hquot]

theorem escapeChar_ne_nil (c : Char) : escapeChar c ≠ [] := by
  cases h : isEscaped c with
  | true =>
      rcases isEscaped_iff.1 h with rfl | rfl | rfl | rfl <;> decide
  | false =>
      rw [escapeChar_of_not_isEscaped h]
      exact List.cons_ne_nil c []

/-- A property that the characters of the entities have passes from a text to its escaped form. -/
theorem forall_mem_flatMap_escapeChar {P : Char → Prop} {s : List Char}
    (hentity : ∀ c, isEscaped c = true → ∀ d ∈ escapeChar c, P d)
    (hs : ∀ c ∈ s, isEscaped c = false → P c) : ∀ d ∈ s.flatMap escapeChar, P d := by
  intro d hd
  obtain ⟨c, hc, hdc⟩ := List.mem_flatMap.1 hd
  cases hescaped : isEscaped c with
  | true => exact hentity c hescaped d hdc
  | false =>
      rw [escapeChar_of_not_isEscaped hescaped, List.mem_singleton] at hdc
      subst hdc
      exact hs d hc hescaped

end Element

namespace Markup

open Element (isEscaped isEscaped_iff escapeChar)

variable {c : Char} {s rest : List Char} {pieces : List Piece}

/-- The piece that an escaped character is read as. -/
def pieceOf (c : Char) : Piece :=
  if isEscaped c then .reference c else .literal c

theorem pieceOf_of_isEscaped (h : isEscaped c = true) : pieceOf c = .reference c :=
  if_pos h

theorem pieceOf_of_not_isEscaped (h : isEscaped c = false) : pieceOf c = .literal c := by
  rw [pieceOf, h]
  rfl

/-- An entity is read as the character that it stands for. -/
theorem exists_readReference (h : isEscaped c = true) (rest : List Char) :
    ∃ entity, escapeChar c = '&' :: entity ∧ readReference (entity ++ rest) = some (c, rest) := by
  rcases isEscaped_iff.1 h with rfl | rfl | rfl | rfl
  · exact ⟨"amp;".toList, rfl, rfl⟩
  · exact ⟨"lt;".toList, rfl, rfl⟩
  · exact ⟨"gt;".toList, rfl, rfl⟩
  · exact ⟨"quot;".toList, rfl, rfl⟩

/-- An escaped text is cut into one piece for each character. -/
theorem readPieces_flatMap_escapeChar (s : List Char) (n : Nat)
    (hn : (s.flatMap escapeChar).length ≤ n) :
    readPieces n (s.flatMap escapeChar) = some (s.map pieceOf) := by
  induction s generalizing n with
  | nil => cases n <;> rfl
  | cons c s ih =>
      rw [List.flatMap_cons] at hn ⊢
      cases hescaped : isEscaped c with
      | true =>
          obtain ⟨entity, hentity, hread⟩ := exists_readReference hescaped (s.flatMap escapeChar)
          rw [hentity, List.cons_append] at hn ⊢
          rw [List.length_cons, List.length_append] at hn
          obtain ⟨n, rfl⟩ : ∃ m, n = m + 1 := ⟨n - 1, by omega⟩
          rw [readPieces, if_pos rfl, hread]
          simp only [ih n (by omega), Option.map_some, List.map_cons, pieceOf_of_isEscaped hescaped]
      | false =>
          have hne : c ≠ '&' := by
            rintro rfl
            cases hescaped
          rw [Element.escapeChar_of_not_isEscaped hescaped, List.singleton_append] at hn ⊢
          rw [List.length_cons] at hn
          obtain ⟨n, rfl⟩ : ∃ m, n = m + 1 := ⟨n - 1, by omega⟩
          rw [readPieces, if_neg hne, ih n (by omega), Option.map_some, List.map_cons,
            pieceOf_of_not_isEscaped hescaped]

theorem pieces?_flatMap_escapeChar (s : List Char) :
    pieces? (s.flatMap escapeChar) = some (s.map pieceOf) :=
  readPieces_flatMap_escapeChar s _ (Nat.le_refl _)

/-- Whether a character becomes a space in an attribute value. -/
def isRespaced (c : Char) : Bool :=
  c = '\n' || c = '\r' || c = '\t'

/-- What is left of the blanks in an attribute value are spaces. -/
theorem not_isRespaced_of_mem_attributeValue
    (h : ∀ c, .reference c ∈ pieces → isRespaced c = false) :
    ∀ c ∈ attributeValue pieces, isRespaced c = false := by
  fun_induction attributeValue pieces with
  | case1 => exact List.forall_mem_nil _
  | case2 c rest ih =>
      rw [List.forall_mem_cons]
      exact ⟨h c List.mem_cons_self, ih fun d hd => h d (List.mem_cons_of_mem _ hd)⟩
  | case3 rest ih =>
      rw [List.forall_mem_cons]
      refine ⟨rfl, ih fun d hd => h d ?_⟩
      exact List.mem_cons_of_mem _ (List.mem_cons_of_mem _ hd)
  | case4 c rest hpair ih =>
      rw [List.forall_mem_cons]
      refine ⟨?_, ih fun d hd => h d (List.mem_cons_of_mem _ hd)⟩
      split
      · rfl
      · rename_i hc
        exact Bool.eq_false_iff.2 hc

/-- An attribute value comes back exactly if it holds no tab and no line end. -/
theorem attributeValue_map_pieceOf_eq_iff :
    attributeValue (s.map pieceOf) = s ↔ ∀ c ∈ s, isRespaced c = false := by
  constructor
  · intro heq
    rw [← heq]
    apply not_isRespaced_of_mem_attributeValue
    intro c hc
    obtain ⟨d, -, hd⟩ := List.mem_map.1 hc
    rw [pieceOf] at hd
    split at hd
    · rename_i hescaped
      cases hd
      rcases isEscaped_iff.1 hescaped with rfl | rfl | rfl | rfl <;> rfl
    · cases hd
  · intro h
    induction s with
    | nil => rfl
    | cons c s ih =>
        rw [List.forall_mem_cons] at h
        rw [List.map_cons]
        cases hescaped : isEscaped c with
        | true => rw [pieceOf_of_isEscaped hescaped, attributeValue, ih h.2]
        | false =>
            have hc : ¬ (decide (c = '\n') || decide (c = '\r') || decide (c = '\t')) = true :=
              Bool.eq_false_iff.1 h.1
            rw [pieceOf_of_not_isEscaped hescaped, attributeValue, if_neg hc, ih h.2]
            intro rest _ hreturn
            subst hreturn
            cases h.1

/-- What is left of a character in a text, given what follows it: a carriage return is dropped
in front of a line feed, kept in front of an entity and a line feed anywhere else. -/
def lineEnd (c : Char) (rest : List Char) : List Char :=
  if c ≠ '\r' then [c]
  else if rest.head? = some '\n' then []
  else if rest.head?.any isEscaped then ['\r']
  else ['\n']

/-- The text that comes back for an escaped text. -/
def relined : List Char → List Char
  | [] => []
  | c :: rest => lineEnd c rest ++ relined rest

theorem lineEnd_of_ne (h : c ≠ '\r') : lineEnd c rest = [c] :=
  if_pos h

theorem lineEnd_return (rest : List Char) :
    lineEnd '\r' rest =
      if rest.head? = some '\n' then [] else if rest.head?.any isEscaped then ['\r'] else ['\n'] :=
  if_neg (not_not_intro rfl)

theorem ne_return_of_isEscaped (h : isEscaped c = true) : c ≠ '\r' := by
  rintro rfl
  cases h

theorem appendChar_of_ne {reversed : List Char} {isLast : Bool}
    (h : reversed.head? ≠ some '\r') (hlast : isLast = true → c ≠ '\r') :
    appendChar reversed c isLast = c :: reversed := by
  have hc : (if isLast && c = '\r' then '\n' else c) = c := by
    apply if_neg
    simpa using hlast
  unfold appendChar
  simp only [hc]
  split
  · exact absurd rfl h
  · rfl

theorem appendChar_return {reversed : List Char} {isLast : Bool}
    (hlast : isLast = true → c ≠ '\r') :
    appendChar ('\r' :: reversed) c isLast =
      if c = '\n' then '\n' :: reversed else c :: '\n' :: reversed := by
  have hc : (if isLast && c = '\r' then '\n' else c) = c := by
    apply if_neg
    simpa using hlast
  simp only [appendChar, hc]

/-- The next character of a text settles what is left of the last one. -/
theorem appendPieces_pieceOf {d : Char} (hlast : pieces.isEmpty = true → d ≠ '\r')
    (s reversed : List Char) :
    appendPieces (c :: reversed) (isEscaped c) (pieceOf d :: pieces) =
      appendPieces (d :: ((lineEnd c (d :: s)).reverse ++ reversed)) (isEscaped d) pieces := by
  cases hd : isEscaped d with
  | true =>
      have hkept : lineEnd c (d :: s) = [c] := by
        by_cases hc : c = '\r'
        · have hline : d ≠ '\n' := by
            rintro rfl
            cases hd
          subst hc
          simp [lineEnd_return, hline, hd]
        · exact lineEnd_of_ne hc
      rw [pieceOf_of_isEscaped hd, appendPieces, hkept]
      rfl
  | false =>
      rw [pieceOf_of_not_isEscaped hd, appendPieces]
      cases hc : isEscaped c with
      | true =>
          rw [if_pos rfl, lineEnd_of_ne (ne_return_of_isEscaped hc)]
          rfl
      | false =>
          rw [if_neg Bool.false_ne_true]
          by_cases hreturn : c = '\r'
          · subst hreturn
            rw [appendChar_return hlast, lineEnd_return]
            by_cases hline : d = '\n'
            · subst hline
              rfl
            · simp [hline, hd]
          · have hhead : (c :: reversed).head? ≠ some '\r' := by simpa using hreturn
            rw [appendChar_of_ne hhead hlast, lineEnd_of_ne hreturn]
            rfl

theorem ne_return_of_isEmpty (hlast : ∀ before, c :: s ≠ before ++ ['\r'])
    (hempty : (s.map pieceOf).isEmpty = true) : c ≠ '\r' := by
  rw [List.isEmpty_iff, List.map_eq_nil_iff] at hempty
  rintro rfl
  apply hlast []
  rw [hempty, List.nil_append]

theorem appendPieces_map_pieceOf (hlast : ∀ before, c :: s ≠ before ++ ['\r'])
    (reversed : List Char) :
    appendPieces (c :: reversed) (isEscaped c) (s.map pieceOf) =
      (relined (c :: s)).reverse ++ reversed := by
  induction s generalizing c reversed with
  | nil =>
      rw [relined, lineEnd_of_ne (ne_return_of_isEmpty hlast rfl)]
      rfl
  | cons d s ih =>
      have hrest : ∀ before, d :: s ≠ before ++ ['\r'] := by
        intro before heq
        apply hlast (c :: before)
        rw [heq, List.cons_append]
      have hrelined : relined (c :: d :: s) = lineEnd c (d :: s) ++ relined (d :: s) := rfl
      rw [List.map_cons, appendPieces_pieceOf (ne_return_of_isEmpty hrest) s, ih hrest, hrelined,
        List.reverse_append, List.append_assoc]

/-- An escaped text is decoded to the text with its line ends changed, if no carriage return
ends it. -/
theorem textValue_map_pieceOf (hlast : ∀ before, s ≠ before ++ ['\r']) :
    textValue (s.map pieceOf) = relined s := by
  cases s with
  | nil => rfl
  | cons c s =>
      have hstart : appendPieces [] false (pieceOf c :: s.map pieceOf) =
          appendPieces [c] (isEscaped c) (s.map pieceOf) := by
        cases hc : isEscaped c with
        | true =>
            rw [pieceOf_of_isEscaped hc]
            rfl
        | false =>
            rw [pieceOf_of_not_isEscaped hc, appendPieces, if_neg Bool.false_ne_true,
              appendChar_of_ne (by simp) (ne_return_of_isEmpty hlast)]
      rw [textValue, List.map_cons, hstart, appendPieces_map_pieceOf hlast, List.append_nil,
        List.reverse_reverse]

theorem relined_ne_nil (hs : s ≠ []) : relined s ≠ [] := by
  induction s with
  | nil => exact absurd rfl hs
  | cons c s ih =>
      rw [relined, lineEnd]
      split
      · simp
      · split
        · apply ih
          rintro rfl
          contradiction
        · split <;> simp

/-- A text without blanks at its ends still has none afterwards. -/
theorem trimmed_relined (hs : Text.Trimmed s) : Text.Trimmed (relined s) := by
  obtain ⟨hhead, hlast⟩ := hs
  constructor
  · cases s with
    | nil => nofun
    | cons c s =>
        have hc : Text.isBlank c = false := hhead c rfl
        have hne : c ≠ '\r' := by
          rintro rfl
          cases hc
        rw [relined, lineEnd_of_ne hne]
        exact hhead
  · clear hhead
    induction s with
    | nil => exact hlast
    | cons c s ih =>
        rw [relined]
        cases s with
        | nil =>
            have hne : c ≠ '\r' := by
              rintro rfl
              cases hlast _ rfl
            rw [lineEnd_of_ne hne]
            exact hlast
        | cons d s =>
            rw [List.getLast?_append_of_ne_nil _ (relined_ne_nil (List.cons_ne_nil d s))]
            rw [List.getLast?_cons_cons] at hlast
            exact ih hlast

/-- Whether every carriage return in a text stands in front of a character that is escaped. -/
def KeepsReturns (s : List Char) : Prop :=
  ∀ before after, s = before ++ '\r' :: after → after.head?.any isEscaped = true

theorem keepsReturns_cons_iff :
    KeepsReturns (c :: s) ↔ (c = '\r' → s.head?.any isEscaped = true) ∧ KeepsReturns s := by
  constructor
  · intro h
    constructor
    · rintro rfl
      exact h [] s rfl
    · rintro before after rfl
      exact h (c :: before) after rfl
  · rintro ⟨hc, hs⟩ before after heq
    cases before with
    | nil =>
        obtain ⟨rfl, rfl⟩ := List.cons.inj heq
        exact hc rfl
    | cons d before => exact hs before after (List.cons.inj heq).2

theorem length_lineEnd_le (c : Char) (rest : List Char) : (lineEnd c rest).length ≤ 1 := by
  rw [lineEnd]
  split
  · exact Nat.le_refl _
  · split
    · exact Nat.zero_le _
    · split <;> exact Nat.le_refl _

theorem length_relined_le (s : List Char) : (relined s).length ≤ s.length := by
  induction s with
  | nil => exact Nat.le_refl _
  | cons c s ih =>
      have hline := length_lineEnd_le c s
      rw [relined, List.length_append, List.length_cons]
      omega

theorem lineEnd_eq_singleton_iff :
    lineEnd c rest = [c] ↔ (c = '\r' → rest.head?.any isEscaped = true) := by
  by_cases hc : c = '\r'
  · subst hc
    rw [lineEnd_return]
    split
    · rename_i hline
      simp [hline, isEscaped]
    · split <;> simp_all
  · simp [lineEnd_of_ne hc, hc]

/-- A text comes back exactly if it keeps its carriage returns. -/
theorem relined_eq_iff : relined s = s ↔ KeepsReturns s := by
  induction s with
  | nil => simp [relined, KeepsReturns]
  | cons c s ih =>
      rw [keepsReturns_cons_iff, ← ih, ← lineEnd_eq_singleton_iff, relined]
      constructor
      · intro heq
        -- The rest is no longer than before, so one character is left of the first.
        have hlength : (lineEnd c s).length = [c].length := by
          have htotal := congrArg List.length heq
          have hline := length_lineEnd_le c s
          have hrest := length_relined_le s
          rw [List.length_append, List.length_cons] at htotal
          rw [List.length_singleton]
          omega
        exact List.append_inj heq hlength
      · rintro ⟨hline, hrest⟩
        rw [hline, hrest, List.singleton_append]

end Markup

end DocMatch
