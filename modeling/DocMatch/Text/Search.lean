/-!
Finding one text at the start of another or anywhere inside it.
-/

namespace DocMatch.Text

/-- What follows `pattern` in the text, if the text starts with it. -/
def dropPrefix? : List Char → List Char → Option (List Char)
  | [], s => some s
  | _ :: _, [] => none
  | p :: pattern, c :: s => if p = c then dropPrefix? pattern s else none

/-- Whether the text starts with `pattern`. -/
def startsWith (pattern s : List Char) : Bool :=
  (dropPrefix? pattern s).isSome

/-- Whether `pattern` occurs in the text. -/
def occursIn (pattern : List Char) : List Char → Bool
  | [] => pattern.isEmpty
  | c :: s => startsWith pattern (c :: s) || occursIn pattern s

theorem dropPrefix?_eq_some_iff {pattern s rest : List Char} :
    dropPrefix? pattern s = some rest ↔ s = pattern ++ rest := by
  induction pattern generalizing s with
  | nil => simp [dropPrefix?]
  | cons p pattern ih =>
      cases s with
      | nil => simp [dropPrefix?]
      | cons c s =>
          by_cases h : p = c
          · simp [dropPrefix?, h, ih]
          · simp [dropPrefix?, h, Ne.symm h]

theorem startsWith_iff {pattern s : List Char} :
    startsWith pattern s = true ↔ pattern <+: s := by
  rw [startsWith, Option.isSome_iff_exists]
  constructor
  · rintro ⟨rest, h⟩
    exact ⟨rest, (dropPrefix?_eq_some_iff.1 h).symm⟩
  · rintro ⟨rest, h⟩
    exact ⟨rest, dropPrefix?_eq_some_iff.2 h.symm⟩

/-- The search finds exactly the contiguous parts of a text. -/
theorem occursIn_iff {pattern s : List Char} :
    occursIn pattern s = true ↔ pattern <:+: s := by
  induction s with
  | nil => simp [occursIn, List.infix_nil]
  | cons c s ih => rw [occursIn, Bool.or_eq_true, startsWith_iff, ih, List.infix_cons_iff]

end DocMatch.Text
