import DocMatch.Proofs.EndMark
/-!
Reading escapes with a mark after the pattern.  The steps of a reader are counted by what is left
of the text, so with the mark there may be more of them.
-/

namespace DocMatch.Regex

section Escapes

variable {t : EndMark} {s s' : List Char} {flags : Flags}

theorem kept_readPropertyName (h : Follows t s s') {n n' : Nat} (hn : n ≤ n') :
    Kept (Follows t) (readPropertyName flags n s) (readPropertyName flags n' s') := by
  induction n generalizing s s' n' with
  | zero => exact kept_none _
  | succ n ih =>
    cases n' with
    | zero => exact absurd hn (Nat.not_succ_le_zero n)
    | succ n' =>
      have hskip := follows_skip h flags
      rw [readPropertyName, readPropertyName]
      generalize skip flags s = q at hskip
      generalize skip flags s' = q' at hskip
      cases q with
      | nil => exact kept_none _
      | cons c q =>
        obtain ⟨q', rfl, hq⟩ := hskip.cons_inv
        by_cases hc : c = '}'
        · subst hc
          exact kept_some _ hq
        · simp only
          exact (ih hq (Nat.le_of_succ_le_succ hn)).map _

theorem kept_readProperty (h : Follows t s s') (negated : Bool) :
    Kept (Follows t) (readProperty flags negated s) (readProperty flags negated s') := by
  have hskip := follows_skip h flags
  rw [readProperty, readProperty]
  generalize skip flags s = q at hskip
  generalize skip flags s' = q' at hskip
  split
  case isTrue => exact kept_none _
  case isFalse =>
    cases q with
    | nil => exact kept_none _
    | cons c q =>
      obtain ⟨q', rfl, hq⟩ := hskip.cons_inv
      by_cases hbrace : c = '{'
      · subst hbrace
        apply (kept_readPropertyName hq (Nat.succ_le_succ hq.length_le)).bind
        intro name r r' hr
        exact kept_bind_same _ fun p => kept_some _ hr
      · by_cases hslash : c = '\\'
        · subst hslash
          exact kept_none _
        · simp only
          exact kept_bind_same _ fun p => kept_some _ (follows_skip hq flags)

theorem kept_readConditionName (h : Follows t s s') {n n' : Nat} (hn : n ≤ n') :
    Kept (Follows t) (readConditionName flags n s) (readConditionName flags n' s') := by
  induction n generalizing s s' n' with
  | zero => exact kept_none _
  | succ n ih =>
    cases n' with
    | zero => exact absurd hn (Nat.not_succ_le_zero n)
    | succ n' =>
      cases s with
      | nil => exact kept_none _
      | cons c s =>
        obtain ⟨rest, rfl, hrest⟩ := h.cons_inv
        unfold readConditionName
        by_cases hc : c = '}'
        · subst hc
          exact kept_some _ hrest
        · simp only
          split
          · exact (ih (follows_skip hrest flags) (Nat.le_of_succ_le_succ hn)).map _
          · exact kept_none _

theorem kept_readBoundary (h : Follows t s s') :
    Kept (Follows t) (readBoundary flags s) (readBoundary flags s') := by
  unfold readBoundary
  split
  case h_1 rest =>
    obtain ⟨rest', rfl, hrest⟩ := h.cons_inv
    have hskip := follows_skip hrest flags
    simp only
    generalize skip flags rest = q at hskip
    generalize skip flags rest' = q' at hskip
    cases q with
    | nil => exact kept_none _
    | cons c q =>
      obtain ⟨q', rfl, hq⟩ := hskip.cons_inv
      dsimp only
      split
      · exact kept_some _ h
      · apply (kept_readConditionName hskip (Nat.add_le_add_right hq.length_le 2)).bind
        intro name r r' hr
        dsimp only
        split
        · exact kept_some _ hr
        · exact kept_some _ hr
        · exact kept_some _ hr
        · exact kept_some _ hr
        · exact kept_none _
  case h_2 hbrace =>
    split
    case h_1 rest' =>
      obtain ⟨rest, hs⟩ := h.eq_cons (by decide)
      exact (hbrace rest hs).elim
    case h_2 => exact kept_some _ h

theorem kept_readEscape (h : Follows t s s') :
    Kept (Follows t) (readEscape flags s) (readEscape flags s') := by
  cases s with
  | nil => exact kept_none _
  | cons c s =>
    obtain ⟨rest, rfl, hrest⟩ := h.cons_inv
    unfold readEscape
    dsimp only
    split
    · exact (kept_readHex hrest 2).map _
    · exact (kept_readHex hrest 4).map _
    · exact (kept_readHex hrest 8).map _
    · exact (kept_readProperty hrest false).map _
    · exact (kept_readProperty hrest true).map _
    iterate 6 exact kept_map_same _ _ hrest
    iterate 8 exact kept_some _ hrest
    · exact (kept_readBoundary hrest).map _
    iterate 3 exact kept_some _ hrest
    · split
      · exact kept_some _ hrest
      · exact kept_none _

end Escapes

end DocMatch.Regex
