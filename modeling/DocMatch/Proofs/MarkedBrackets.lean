import DocMatch.Proofs.MarkedEscapes
import DocMatch.Regex.Brackets
/-!
Reading brackets with a mark after the pattern.  Where a reader takes one way if another fails, as
with the names of classes, it has to fail with the mark too: the mark holds no colon, and its first
sign is none that these readers look for.
-/

namespace DocMatch.Regex

section AsciiClasses

variable {t : EndMark} {s s' : List Char}

theorem kept_splitAt? (h : Follows t s s') (d : Char) :
    Kept (Follows t) (splitAt? [d] s) (splitAt? [d] s') := by
  induction s generalizing s' with
  | nil => exact kept_none _
  | cons c s ih =>
    obtain ⟨rest, rfl, hrest⟩ := h.cons_inv
    rw [splitAt?, splitAt?, Text.dropPrefix?, Text.dropPrefix?, Text.dropPrefix?, Text.dropPrefix?]
    split_ifs
    · exact kept_some _ hrest
    · exact (ih hrest).map _

/-- A text without a separator is not split. -/
theorem splitAt?_eq_none {d : Char} (h : d ∉ s) : splitAt? [d] s = none := by
  induction s with
  | nil => rfl
  | cons c s ih =>
    rw [splitAt?, Text.dropPrefix?, if_neg (List.ne_of_not_mem_cons h),
      ih (List.not_mem_of_not_mem_cons h)]
    rfl

/-- A separator that the mark does not hold is found in the pattern or not at all. -/
theorem splitAt?_marked_eq_none (h : Follows t s s') {d : Char} (hd : d ∉ t.text)
    (hnone : splitAt? [d] s = none) : splitAt? [d] s' = none := by
  induction s generalizing s' with
  | nil =>
    cases h with
    | hidden => rfl
    | shown => exact splitAt?_eq_none hd
  | cons c s ih =>
    obtain ⟨rest, rfl, hrest⟩ := h.cons_inv
    rw [splitAt?, Text.dropPrefix?, Text.dropPrefix?] at hnone ⊢
    split_ifs at hnone ⊢
    rw [Option.map_eq_none_iff] at hnone ⊢
    exact ih hrest hnone

/-- Whether the name of a class is read with one result as with the other, or with neither. -/
inductive SameClass (t : EndMark) : (x y : Option (CharSet × Bool × List Char)) → Prop
  | none : SameClass t none none
  | some (set : CharSet) (negated : Bool) {r r' : List Char} (h : Follows t r r') :
      SameClass t (some (set, negated, r)) (some (set, negated, r'))

theorem sameClass_readAsciiClass (h : Follows t s s') :
    SameClass t (readAsciiClass s) (readAsciiClass s') := by
  unfold readAsciiClass
  split
  rename_i negated inside heq
  split
  rename_i negated' inside' heq'
  obtain ⟨rfl, hinside⟩ : negated = negated' ∧ Follows t inside inside' := by
    split at heq
    case h_1 rest =>
      obtain ⟨rest', rfl, hrest⟩ := h.cons_inv
      cases heq
      cases heq'
      exact ⟨rfl, hrest⟩
    case h_2 hsign =>
      split at heq'
      case h_1 rest' =>
        obtain ⟨rest, hs⟩ := h.eq_cons (by decide)
        exact (hsign rest hs).elim
      case h_2 =>
        cases heq
        cases heq'
        exact ⟨rfl, h⟩
  cases hsplit : splitAt? [':'] inside with
  | none =>
    rw [splitAt?_marked_eq_none hinside t.colon hsplit]
    exact .none
  | some p =>
    obtain ⟨rest', hsplit', hrest⟩ := kept_splitAt? hinside ':' p.1 p.2 hsplit
    obtain ⟨name, rest⟩ := p
    rw [hsplit']
    simp only [Option.bind_eq_bind, Option.bind_some]
    split
    case h_1 after =>
      obtain ⟨after', rfl, hafter⟩ := hrest.cons_inv
      cases CharSet.asciiClass? (String.ofList name) with
      | none => exact .none
      | some set => exact .some set negated hafter
    case h_2 hbracket =>
      split
      case h_1 after' =>
        obtain ⟨after, heq⟩ := hrest.eq_cons (by decide)
        exact (hbracket after heq).elim
      case h_2 => exact .none

end AsciiClasses

section Ranges

variable {t : EndMark} {s s' : List Char} {flags : Flags}

theorem kept_readClassPrimitive (h : Follows t s s') :
    Kept (Follows t) (readClassPrimitive flags s) (readClassPrimitive flags s') := by
  cases s with
  | nil => exact kept_none _
  | cons c s =>
    obtain ⟨rest, rfl, hrest⟩ := h.cons_inv
    by_cases hslash : c = '\\'
    · subst hslash
      exact kept_readEscape hrest
    · unfold readClassPrimitive
      simp only
      exact kept_some _ hrest

theorem kept_readClassRange (h : Follows t s s') :
    Kept (Follows t) (readClassRange flags s) (readClassRange flags s') := by
  unfold readClassRange
  apply (kept_readClassPrimitive h).bind
  intro first r r' hr
  have hskip := follows_skip hr flags
  dsimp only
  generalize skip flags r = q at hskip
  generalize skip flags r' = q' at hskip
  cases q with
  | nil => exact kept_none _
  | cons c q =>
    obtain ⟨q', rfl, hq⟩ := hskip.cons_inv
    simp only [hq.peekAfterBlanks_eq flags (d := ']') (by decide),
      hq.peekAfterBlanks_eq flags (d := '-') (by decide)]
    split
    case isTrue =>
      split
      · exact kept_some _ hskip
      · exact kept_bind_same _ fun c => kept_some _ hskip
      · exact kept_none _
    case isFalse =>
      apply (kept_readClassPrimitive (follows_skip hq flags)).bind
      intro last r r' hr
      apply kept_bind_same
      intro low
      apply kept_bind_same
      intro high
      dsimp only
      split
      · exact kept_some _ hr
      · exact kept_none _

end Ranges

section Starts

variable {t : EndMark} {s s' : List Char} {flags : Flags}

/-- The start of brackets after their sign. -/
def openSigned (flags : Flags) (negated : Bool) (s : List Char) :
    Bool × List NestedSet × List Char :=
  match readClassStart flags s.length s with
  | ([], ']' :: rest) => (negated, [⟨.single ']', 0⟩], skip flags rest)
  | (items, rest) => (negated, items, rest)

theorem openClass_of_sign {rest : List Char} (h : skip flags s = '^' :: rest) :
    openClass flags s = openSigned flags true (skip flags rest) := by
  rw [openClass, h]
  rfl

theorem openClass_of_no_sign (h : ¬ ∃ rest, skip flags s = '^' :: rest) :
    openClass flags s = openSigned flags false (skip flags s) := by
  unfold openClass
  split
  rename_i negated inside heq
  split at heq
  case h_1 rest hs => exact absurd ⟨rest, hs⟩ h
  case h_2 =>
    cases heq
    rfl

/-- Whether brackets start with the same sign and items, with the mark after what is left. -/
inductive SameStart (t : EndMark) : (x y : Bool × List NestedSet × List Char) → Prop
  | intro (negated : Bool) (items : List NestedSet) {r r' : List Char} (h : Follows t r r') :
      SameStart t (negated, items, r) (negated, items, r')

variable (flags) in
theorem readClassStart_marked (h : Follows t s s') {n n' : Nat} (hn : s.length ≤ n)
    (hn' : s'.length ≤ n') :
    (readClassStart flags n' s').1 = (readClassStart flags n s).1 ∧
      Follows t (readClassStart flags n s).2 (readClassStart flags n' s').2 := by
  induction n generalizing s s' n' with
  | zero =>
    cases List.eq_nil_of_length_eq_zero (Nat.le_zero.mp hn)
    rcases h.nil_inv with rfl | ⟨rest, rfl⟩
    · cases n' <;> exact ⟨rfl, h⟩
    · cases n' <;> exact ⟨rfl, h⟩
  | succ n ih =>
    cases s with
    | nil =>
      rcases h.nil_inv with rfl | ⟨rest, rfl⟩
      · cases n' <;> exact ⟨rfl, h⟩
      · cases n' <;> exact ⟨rfl, h⟩
    | cons c s =>
      obtain ⟨rest, rfl, hrest⟩ := h.cons_inv
      cases n' with
      | zero => exact absurd hn' (Nat.not_succ_le_zero _)
      | succ n' =>
        by_cases hc : c = '-'
        · subst hc
          obtain ⟨hitems, hafter⟩ := ih (follows_skip hrest flags)
            ((length_skip_le flags s).trans (Nat.le_of_succ_le_succ hn))
            ((length_skip_le flags rest).trans (Nat.le_of_succ_le_succ hn'))
          exact ⟨congrArg (fun items => items ++ [(⟨.single '-', 0⟩ : NestedSet)]) hitems, hafter⟩
        · simp [readClassStart, hc, h]

theorem sameStart_openSigned (h : Follows t s s') (negated : Bool) :
    SameStart t (openSigned flags negated s) (openSigned flags negated s') := by
  obtain ⟨hitems, hafter⟩ := readClassStart_marked flags h le_rfl le_rfl
  unfold openSigned
  generalize readClassStart flags s.length s = x at hitems hafter
  generalize readClassStart flags s'.length s' = x' at hitems hafter
  obtain ⟨items, rest⟩ := x
  obtain ⟨items', rest'⟩ := x'
  cases hitems
  split
  case h_1 after heq =>
    cases heq
    obtain ⟨after', heq', hafter'⟩ := hafter.cons_inv
    cases heq'
    exact .intro negated _ (follows_skip hafter' flags)
  case h_2 items rest hclosing heq =>
    cases heq
    split
    case h_1 after' heq' =>
      cases heq'
      obtain ⟨after, heq⟩ := hafter.eq_cons (by decide)
      exact (hclosing after rfl heq).elim
    case h_2 heq' =>
      cases heq'
      exact .intro negated _ hafter

variable (flags) in
theorem sameStart_openClass (h : Follows t s s') :
    SameStart t (openClass flags s) (openClass flags s') := by
  have hskip := follows_skip h flags
  by_cases hsign : ∃ rest, skip flags s = '^' :: rest
  · obtain ⟨rest, hs⟩ := hsign
    rw [hs] at hskip
    obtain ⟨rest', hs', hrest⟩ := hskip.cons_inv
    rw [openClass_of_sign hs, openClass_of_sign hs']
    exact sameStart_openSigned (follows_skip hrest flags) true
  · have hsign' : ¬ ∃ rest', skip flags s' = '^' :: rest' := by
      rintro ⟨rest', hs'⟩
      rw [hs'] at hskip
      exact hsign (hskip.eq_cons (by decide))
    rw [openClass_of_no_sign hsign, openClass_of_no_sign hsign']
    exact sameStart_openSigned hskip false

end Starts

section Classes

variable {t : EndMark} {s s' rest rest' : List Char} {flags : Flags} {n n' : Nat}

section Nested

/- What is read with `n` and `n'` steps is kept, so that brackets in brackets can be read before
what follows them. -/
variable (hread : ∀ {s s' : List Char}, Follows t s s' → ∀ (negated : Bool)
    (items : List NestedSet) (waiting : Option (NestedSet × SetOp)),
    Kept (Follows t) (readClass flags negated n items waiting s)
      (readClass flags negated n' items waiting s'))
  (h : Follows t rest rest') (negated : Bool) (items : List NestedSet)
  (waiting : Option (NestedSet × SetOp))

include hread h

theorem kept_nestedClass : Kept (Follows t)
    ((readClass flags (openClass flags rest).1 n (openClass flags rest).2.1 none
      (openClass flags rest).2.2).bind fun p => readClass flags negated n (p.1 :: items) waiting p.2)
    ((readClass flags (openClass flags rest').1 n' (openClass flags rest').2.1 none
      (openClass flags rest').2.2).bind fun p =>
        readClass flags negated n' (p.1 :: items) waiting p.2) := by
  have hopen := sameStart_openClass flags h
  generalize openClass flags rest = x at hopen
  generalize openClass flags rest' = x' at hopen
  cases hopen with
  | intro negatedInner start hstart =>
    apply (hread hstart negatedInner start none).bind
    intro inner r r' hr
    exact hread hr negated _ _

/-- What starts with a bracket is the name of a class, or other brackets. -/
theorem kept_readClass_bracket (hs : skip flags s = '[' :: rest)
    (hs' : skip flags s' = '[' :: rest') :
    Kept (Follows t) (readClass flags negated (n + 1) items waiting s)
      (readClass flags negated (n' + 1) items waiting s') := by
  have nested := kept_nestedClass hread h negated items waiting
  rw [readClass, readClass, hs, hs']
  simp only
  by_cases hcolon : ∃ name, rest = ':' :: name
  · obtain ⟨name, rfl⟩ := hcolon
    obtain ⟨name', rfl, hname⟩ := h.cons_inv
    have hclass := sameClass_readAsciiClass hname
    generalize hx : readAsciiClass name = x at hclass
    generalize hx' : readAsciiClass name' = x' at hclass
    cases hclass with
    | none =>
      simp only [hx, hx']
      exact nested
    | some set negatedClass hr =>
      simp only [hx, hx']
      split
      · exact kept_none _
      · exact hread hr negated _ _
  · split
    case h_1 heq =>
      split at heq
      · exact absurd ⟨_, rfl⟩ hcolon
      · cases heq
    case h_2 =>
      split
      case h_1 heq =>
        split at heq
        · exact absurd (h.eq_cons (by decide)) hcolon
        · cases heq
      case h_2 => exact nested

end Nested

theorem kept_readClass (h : Follows t s s') (negated : Bool) (hn : n ≤ n')
    (items : List NestedSet) (waiting : Option (NestedSet × SetOp)) :
    Kept (Follows t) (readClass flags negated n items waiting s)
      (readClass flags negated n' items waiting s') := by
  induction n generalizing s s' n' items waiting negated with
  | zero => exact kept_none _
  | succ n ih =>
    cases n' with
    | zero => exact absurd hn (Nat.not_succ_le_zero n)
    | succ n' =>
      replace hn := Nat.le_of_succ_le_succ hn
      have hskip := follows_skip h flags
      by_cases hopening : ∃ rest, skip flags s = '[' :: rest
      · obtain ⟨rest, hs⟩ := hopening
        rw [hs] at hskip
        obtain ⟨rest', hs', hrest⟩ := hskip.cons_inv
        exact kept_readClass_bracket (fun h negated => ih h negated hn) hrest negated items waiting
          hs hs'
      unfold readClass
      dsimp only
      generalize skip flags s = q at hskip hopening
      generalize skip flags s' = q' at hskip
      split
      case h_1 => exact kept_none _
      case h_2 rest =>
        obtain ⟨rest', rfl, hrest⟩ := hskip.cons_inv
        exact kept_map_same _ id hrest
      case h_3 rest =>
        obtain ⟨rest', rfl, hrest⟩ := hskip.cons_cons_inv
        exact ih hrest negated hn _ _
      case h_4 rest =>
        obtain ⟨rest', rfl, hrest⟩ := hskip.cons_cons_inv
        exact ih hrest negated hn _ _
      case h_5 rest =>
        obtain ⟨rest', rfl, hrest⟩ := hskip.cons_cons_inv
        exact ih hrest negated hn _ _
      case h_6 rest => exact absurd ⟨rest, rfl⟩ hopening
      case h_7 hend hclosing hinter hdiff hsymm _ =>
        -- no operator can come up of which only the first sign stands in the pattern
        split
        case h_1 =>
          exact (hend (List.eq_nil_of_length_eq_zero (Nat.le_zero.mp hskip.length_le))).elim
        case h_2 =>
          obtain ⟨rest, hq⟩ := hskip.eq_cons (by decide)
          exact (hclosing rest hq).elim
        case h_3 =>
          obtain ⟨rest, hq⟩ := hskip.eq_cons_cons (by decide) (by decide)
          exact (hinter rest hq).elim
        case h_4 =>
          obtain ⟨rest, hq⟩ := hskip.eq_cons_cons (by decide) (by decide)
          exact (hdiff rest hq).elim
        case h_5 =>
          obtain ⟨rest, hq⟩ := hskip.eq_cons_cons (by decide) (by decide)
          exact (hsymm rest hq).elim
        case h_6 => exact absurd (hskip.eq_cons (by decide)) hopening
        case h_7 =>
          apply (kept_readClassRange hskip).bind
          intro set r r' hr
          exact ih hr negated hn _ _

end Classes

end DocMatch.Regex
