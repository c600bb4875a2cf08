import DocMatch.Proofs.Scanning
import DocMatch.Regex.Escape
/-!
Reading a pattern with a mark after its end.  What is read from the pattern by itself is read from
it with the mark too, and what is left then has the mark after it.  The only exception is a comment
that runs to the end of the pattern: it runs on to the end of the mark, and hides it.
-/

namespace DocMatch.Regex

/-- What may be put after patterns: nothing, or a text that starts with a closing parenthesis and
cannot end a comment or the name of a class. -/
structure EndMark where
  text : List Char
  /-- Whether the patterns before the mark may hold the sign of a comment. -/
  comments : Prop
  head : ∀ c ∈ text.head?, c = ')'
  newline : '\n' ∉ text
  colon : ':' ∉ text

/-- Whether a rest of a pattern becomes another one when the mark is put after the pattern. -/
inductive Follows (t : EndMark) : List Char → List Char → Prop
  | shown (s : List Char) (h : '#' ∈ s → t.comments) : Follows t s (s ++ t.text)
  /-- A comment has been skipped that runs to the end. -/
  | hidden (h : t.comments) : Follows t [] []

/-- Whether what is read with one result is read with the other, with rests in a relation. -/
def Kept {α σ : Type} (rel : σ → σ → Prop) (x y : Option (α × σ)) : Prop :=
  ∀ v r, x = some (v, r) → ∃ r', y = some (v, r') ∧ rel r r'

section Results

variable {α β γ σ τ : Type} {rel : σ → σ → Prop} {rel' : τ → τ → Prop} {x y : Option (α × σ)}
  {r r' : σ}

theorem kept_none (y : Option (α × σ)) : Kept rel none y := by
  rintro v r ⟨⟩

theorem kept_some (v : α) (h : rel r r') : Kept rel (some (v, r)) (some (v, r')) := by
  rintro _ _ ⟨⟩
  exact ⟨r', rfl, h⟩

/-- What is read first may differ, if everything after it is kept. -/
theorem kept_bind {γ δ : Type} {z : Option γ} {z' : Option δ} {f : γ → Option (α × σ)}
    {g : δ → Option (α × σ)} (h : ∀ v, z = some v → ∃ w, z' = some w ∧ Kept rel (f v) (g w)) :
    Kept rel (z.bind f) (z'.bind g) := by
  intro v r hv
  obtain ⟨first, hz, hf⟩ := Option.bind_eq_some_iff.mp hv
  obtain ⟨first', hz', hkept⟩ := h first hz
  obtain ⟨r', hg, hr⟩ := hkept v r hf
  exact ⟨r', by rw [hz', Option.bind_some, hg], hr⟩

theorem Kept.bind {f g : α × σ → Option (β × τ)} (h : Kept rel x y)
    (hfg : ∀ v r r', rel r r' → Kept rel' (f (v, r)) (g (v, r'))) :
    Kept rel' (x.bind f) (y.bind g) := by
  apply kept_bind
  rintro ⟨v, r⟩ hx
  obtain ⟨r', hy, hr⟩ := h v r hx
  exact ⟨(v, r'), hy, hfg v r r' hr⟩

theorem kept_bind_same (z : Option γ) {f g : γ → Option (β × σ)}
    (hfg : ∀ v, Kept rel (f v) (g v)) : Kept rel (z.bind f) (z.bind g) :=
  kept_bind fun v hz => ⟨v, hz, hfg v⟩

theorem Kept.map (h : Kept rel x y) (f : α → β) :
    Kept rel (x.map fun p => (f p.1, p.2)) (y.map fun p => (f p.1, p.2)) := by
  intro w rest hw
  obtain ⟨⟨v, r⟩, hx, heq⟩ := Option.map_eq_some_iff.mp hw
  cases heq
  obtain ⟨r', hy, hr⟩ := h v r hx
  exact ⟨r', by rw [hy, Option.map_some], hr⟩

theorem kept_map_same (z : Option γ) (f : γ → α) (h : rel r r') :
    Kept rel (z.map fun v => (f v, r)) (z.map fun v => (f v, r')) := by
  cases z with
  | none => exact kept_none _
  | some v => exact kept_some _ h

end Results

section Rests

variable {t : EndMark} {s s' : List Char} {c : Char}

theorem EndMark.text_eq (t : EndMark) : t.text = [] ∨ ∃ rest, t.text = ')' :: rest := by
  have hhead := t.head
  cases htext : t.text with
  | nil => exact .inl rfl
  | cons c rest =>
    rw [htext] at hhead
    cases hhead c rfl
    exact .inr ⟨rest, rfl⟩

theorem Follows.cons_inv (h : Follows t (c :: s) s') :
    ∃ rest, s' = c :: rest ∧ Follows t s rest := by
  cases h with
  | shown _ hcomments => exact ⟨s ++ t.text, rfl, .shown s fun hs => hcomments (.tail c hs)⟩

theorem Follows.cons_cons_inv {d : Char} (h : Follows t (c :: d :: s) s') :
    ∃ rest, s' = c :: d :: rest ∧ Follows t s rest := by
  obtain ⟨next, rfl, hnext⟩ := h.cons_inv
  obtain ⟨rest, rfl, hrest⟩ := hnext.cons_inv
  exact ⟨rest, rfl, hrest⟩

theorem Follows.length_le (h : Follows t s s') : s.length ≤ s'.length := by
  cases h with
  | shown =>
    rw [List.length_append]
    exact Nat.le_add_right _ _
  | hidden => exact le_rfl

theorem Follows.head?_eq_of_ne_nil (h : Follows t s s') (hs : s ≠ []) : s'.head? = s.head? := by
  cases s with
  | nil => exact absurd rfl hs
  | cons c s =>
    obtain ⟨rest, rfl, -⟩ := h.cons_inv
    rfl

theorem Follows.comments (h : Follows t s s') (hs : '#' ∈ s) : t.comments := by
  cases h with
  | shown _ hcomments => exact hcomments hs
  | hidden hcomments => exact hcomments

/-- At its end a pattern has the mark after it, or nothing. -/
theorem Follows.nil_inv (h : Follows t [] s') : s' = [] ∨ ∃ rest, s' = ')' :: rest := by
  cases h with
  | hidden => exact .inl rfl
  | shown => exact t.text_eq

/-- Only a closing parenthesis can come up where the pattern has ended. -/
theorem Follows.eq_cons {d : Char} {rest' : List Char} (h : Follows t s (d :: rest'))
    (hd : d ≠ ')') : ∃ rest, s = d :: rest := by
  cases s with
  | cons c s =>
    obtain ⟨rest, heq, -⟩ := h.cons_inv
    cases heq
    exact ⟨s, rfl⟩
  | nil =>
    rcases h.nil_inv with heq | ⟨rest, heq⟩
    · cases heq
    · cases heq
      exact absurd rfl hd

theorem Follows.eq_cons_cons {d e : Char} {rest' : List Char} (h : Follows t s (d :: e :: rest'))
    (hd : d ≠ ')') (he : e ≠ ')') : ∃ rest, s = d :: e :: rest := by
  obtain ⟨next, rfl⟩ := h.eq_cons hd
  obtain ⟨next', heq, hnext⟩ := h.cons_inv
  cases heq
  obtain ⟨rest, rfl⟩ := hnext.eq_cons he
  exact ⟨rest, rfl⟩

theorem Follows.head?_eq (h : Follows t s s') {d : Char} (hd : d ≠ ')') :
    (s'.head? == some d) = (s.head? == some d) := by
  cases s with
  | cons c s => rw [h.head?_eq_of_ne_nil (List.cons_ne_nil c s)]
  | nil =>
    rcases h.nil_inv with rfl | ⟨rest, rfl⟩
    · rfl
    · exact beq_eq_false_iff_ne.mpr fun heq => hd (Option.some.inj heq).symm

/-- A comment runs to the end of its line. -/
theorem skipExtended_comment (h : '\n' ∉ s) : skipExtended true s = [] := by
  induction s with
  | nil => rfl
  | cons c s ih =>
    have hnewline : (c != '\n') = true := bne_iff_ne.mpr (List.ne_of_not_mem_cons h).symm
    rw [skipExtended, if_pos rfl, hnewline]
    exact ih (List.not_mem_of_not_mem_cons h)

theorem EndMark.skipExtended_text (t : EndMark) : skipExtended false t.text = t.text := by
  rcases t.text_eq with htext | ⟨rest, htext⟩
  · rw [htext]
    rfl
  · rw [htext]
    rfl

theorem EndMark.dropBlanks_text (t : EndMark) : t.text.dropWhile Text.isBlank = t.text := by
  rcases t.text_eq with htext | ⟨rest, htext⟩
  · rw [htext]
    rfl
  · rw [htext]
    rfl

theorem follows_skipExtended (h : Follows t s s') {inComment : Bool}
    (hcomment : inComment = true → t.comments) :
    Follows t (skipExtended inComment s) (skipExtended inComment s') := by
  induction s generalizing s' inComment with
  | nil =>
    cases h with
    | hidden hcomments => exact .hidden hcomments
    | shown =>
      cases inComment with
      | true =>
        rw [List.nil_append, skipExtended_comment t.newline]
        exact .hidden (hcomment rfl)
      | false =>
        rw [List.nil_append, t.skipExtended_text]
        exact .shown [] nofun
  | cons c s ih =>
    obtain ⟨rest, rfl, hrest⟩ := h.cons_inv
    rw [skipExtended, skipExtended]
    split_ifs with hinside hblank hsign
    · exact ih hrest fun _ => hcomment hinside
    · exact ih hrest nofun
    · cases hsign
      exact ih hrest fun _ => h.comments List.mem_cons_self
    · exact h

theorem follows_skip (h : Follows t s s') (flags : Flags) :
    Follows t (skip flags s) (skip flags s') := by
  unfold skip
  split
  · exact follows_skipExtended h nofun
  · exact h

theorem follows_dropBlanks (h : Follows t s s') :
    Follows t (s.dropWhile Text.isBlank) (s'.dropWhile Text.isBlank) := by
  induction s generalizing s' with
  | nil =>
    cases h with
    | hidden hcomments => exact .hidden hcomments
    | shown =>
      rw [List.nil_append, t.dropBlanks_text]
      exact .shown [] nofun
  | cons c s ih =>
    obtain ⟨rest, rfl, hrest⟩ := h.cons_inv
    rw [List.dropWhile_cons, List.dropWhile_cons]
    split
    · exact ih hrest
    · exact h

theorem Follows.peekAfterBlanks_eq (h : Follows t s s') (flags : Flags) {d : Char} (hd : d ≠ ')') :
    (peekAfterBlanks flags s' == some d) = (peekAfterBlanks flags s == some d) := by
  unfold peekAfterBlanks
  split
  case isFalse => exact h.head?_eq hd
  case isTrue =>
    have hdrop := follows_dropBlanks h
    generalize s.dropWhile Text.isBlank = rest at hdrop
    generalize s'.dropWhile Text.isBlank = rest' at hdrop
    cases rest with
    | nil =>
      rcases hdrop.nil_inv with rfl | ⟨after, rfl⟩
      · rfl
      · exact beq_eq_false_iff_ne.mpr fun heq => hd (Option.some.inj heq).symm
    | cons c rest =>
      obtain ⟨after, rfl, hafter⟩ := hdrop.cons_inv
      by_cases hsign : c = '#'
      · subst hsign
        exact (follows_dropBlanks hafter).head?_eq hd
      · split
        case h_1 heq => exact absurd (List.cons.inj heq).1 hsign
        case h_2 =>
          split
          case h_1 heq => exact absurd (List.cons.inj heq).1 hsign
          case h_2 => rfl

end Rests

section Numbers

variable {t : EndMark} {s s' : List Char} {flags : Flags}

theorem length_skipExtended_le (inComment : Bool) (s : List Char) :
    (skipExtended inComment s).length ≤ s.length := by
  induction s generalizing inComment with
  | nil => exact le_rfl
  | cons c s ih =>
    rw [skipExtended]
    split_ifs
    · exact Nat.le_succ_of_le (ih _)
    · exact Nat.le_succ_of_le (ih _)
    · exact Nat.le_succ_of_le (ih _)
    · exact le_rfl

theorem length_skip_le (flags : Flags) (s : List Char) : (skip flags s).length ≤ s.length := by
  unfold skip
  split
  · exact length_skipExtended_le false s
  · exact le_rfl

variable (flags) in
/-- The digits of a count end where the pattern ends. -/
theorem readCountDigits_marked (h : Follows t s s') {n n' : Nat} (hn : s.length ≤ n)
    (hn' : s'.length ≤ n') :
    (readCountDigits flags n' s').1 = (readCountDigits flags n s).1 ∧
      Follows t (readCountDigits flags n s).2 (readCountDigits flags n' s').2 := by
  induction n generalizing s s' n' with
  | zero =>
    cases List.eq_nil_of_length_eq_zero (Nat.le_zero.mp hn)
    rcases h.nil_inv with rfl | ⟨rest, rfl⟩
    · cases n' <;> exact ⟨rfl, h⟩
    · cases n' <;> exact ⟨rfl, h⟩
  | succ n ih =>
    cases s with
    | nil =>
      rcases h.nil_inv with rfl | ⟨rest, rfl⟩
      · cases n' <;> exact ⟨rfl, h⟩
      · cases n' <;> exact ⟨rfl, h⟩
    | cons c s =>
      obtain ⟨rest, rfl, hrest⟩ := h.cons_inv
      cases n' with
      | zero => exact absurd hn' (Nat.not_succ_le_zero _)
      | succ n' =>
        rw [readCountDigits, readCountDigits]
        split
        case isFalse => exact ⟨rfl, h⟩
        case isTrue =>
          obtain ⟨hdigits, hafter⟩ := ih (follows_skip hrest flags)
            ((length_skip_le flags s).trans (Nat.le_of_succ_le_succ hn))
            ((length_skip_le flags rest).trans (Nat.le_of_succ_le_succ hn'))
          exact ⟨congrArg (c :: ·) hdigits, hafter⟩

theorem kept_readCount (h : Follows t s s') :
    Kept (Follows t) (readCount flags s) (readCount flags s') := by
  obtain ⟨hdigits, hafter⟩ := readCountDigits_marked flags (follows_dropBlanks h)
    (List.dropWhile_sublist Text.isBlank).length_le (List.dropWhile_sublist Text.isBlank).length_le
  simp only [readCount, hdigits]
  split
  · exact kept_none _
  · exact kept_some _ (follows_skip (follows_dropBlanks hafter) flags)

theorem kept_readHexDigits (h : Follows t s s') (count : Nat) :
    Kept (Follows t) (readHexDigits flags count s) (readHexDigits flags count s') := by
  induction count generalizing s s' with
  | zero => exact kept_some _ h
  | succ count ih =>
    cases s with
    | nil => exact kept_none _
    | cons c s =>
      obtain ⟨rest, rfl, hrest⟩ := h.cons_inv
      rw [readHexDigits, readHexDigits]
      split
      · exact (ih (follows_skip hrest flags)).map _
      · exact kept_none _

theorem kept_readHexBrace (h : Follows t s s') {n n' : Nat} (hn : n ≤ n') :
    Kept (Follows t) (readHexBrace flags n s) (readHexBrace flags n' s') := by
  induction n generalizing s s' n' with
  | zero => exact kept_none _
  | succ n ih =>
    cases n' with
    | zero => exact absurd hn (Nat.not_succ_le_zero n)
    | succ n' =>
      have hskip := follows_skip h flags
      rw [readHexBrace, readHexBrace]
      generalize skip flags s = q at hskip
      generalize skip flags s' = q' at hskip
      cases q with
      | nil => exact kept_none _
      | cons c q =>
        obtain ⟨q', rfl, hq⟩ := hskip.cons_inv
        by_cases hc : c = '}'
        · subst hc
          exact kept_some _ (follows_skip hq flags)
        · simp only
          split
          · exact (ih hq (Nat.le_of_succ_le_succ hn)).map _
          · exact kept_none _

theorem kept_readHex (h : Follows t s s') (count : Nat) :
    Kept (Follows t) (readHex flags count s) (readHex flags count s') := by
  have hskip := follows_skip h flags
  rw [readHex, readHex]
  generalize skip flags s = q at hskip
  generalize skip flags s' = q' at hskip
  split
  case h_1 rest =>
    obtain ⟨rest', rfl, hrest⟩ := hskip.cons_inv
    apply (kept_readHexBrace hrest (Nat.succ_le_succ hrest.length_le)).bind
    intro digits r r' hr
    dsimp only
    split
    · exact kept_none _
    · exact kept_bind_same _ fun c => kept_some c hr
  case h_2 hbrace =>
    split
    case h_1 rest' =>
      obtain ⟨rest, hq⟩ := hskip.eq_cons (by decide)
      exact (hbrace rest hq).elim
    case h_2 =>
      apply (kept_readHexDigits hskip count).bind
      intro digits r r' hr
      apply kept_bind_same
      intro c
      split
      · exact kept_none _
      · exact kept_some c hr

end Numbers

end DocMatch.Regex
