import DocMatch.Proofs.MarkedBrackets
import DocMatch.Regex.Reader
/-!
Reading groups, repetitions and whole patterns with a mark after the pattern.  A state of reading
differs only by the mark after what is left, so the item that is read is the same.
-/

namespace DocMatch.Regex

/-- Whether two states of reading differ by the mark after what is left alone. -/
inductive SameScan (t : EndMark) : Scan → Scan → Prop
  | intro {r r' : List Char} (h : Follows t r r') (flags : Flags) (names : List (List Char))
      (groups : Nat) : SameScan t ⟨r, flags, names, groups⟩ ⟨r', flags, names, groups⟩

/-- Whether a text is found at the start with one rest as with the other, or with neither. -/
inductive SameRest (t : EndMark) : (x y : Option (List Char)) → Prop
  | none : SameRest t none none
  | some {r r' : List Char} (h : Follows t r r') : SameRest t (some r) (some r')

theorem SameRest.or {t : EndMark} {x y x' y' : Option (List Char)} (h : SameRest t x y)
    (h' : SameRest t x' y') : SameRest t (x.or x') (y.or y') := by
  cases h with
  | none => exact h'
  | some h => exact .some h

/-- Whether a parenthesis starts the same group or change of flags, with the mark after what is
left. -/
inductive SameGroup (t : EndMark) : GroupStart → GroupStart → Prop
  | group {inside inside' : Scan} (h : SameScan t inside inside') (number : Option Nat) :
      SameGroup t (.group inside number) (.group inside' number)
  | directive {after after' : Scan} (h : SameScan t after after') :
      SameGroup t (.directive after) (.directive after')

section Groups

variable {t : EndMark} {s s' : List Char}

/-- Flags are read up to a sign that stands in the pattern. -/
theorem readFlags_marked (h : Follows t s s') {n n' : Nat} (hn : n ≤ n') {flags after : Flags}
    {negation : Option Bool} {seen rest : List Char} {isDirective : Bool}
    (hread : readFlags n flags negation seen s = some (after, isDirective, rest)) :
    ∃ rest', readFlags n' flags negation seen s' = some (after, isDirective, rest') ∧
      Follows t rest rest' := by
  induction n generalizing s s' n' flags negation seen with
  | zero => cases hread
  | succ n ih =>
    cases n' with
    | zero => exact absurd hn (Nat.not_succ_le_zero n)
    | succ n' =>
      cases s with
      | nil => cases hread
      | cons c s =>
        obtain ⟨s', rfl, hs⟩ := h.cons_inv
        replace hn := Nat.le_of_succ_le_succ hn
        rw [readFlags] at hread ⊢
        split_ifs at hread ⊢
        case neg =>
          cases hread
          exact ⟨s', rfl, hs⟩
        case neg => exact ih hs hn hread
        case neg =>
          obtain ⟨next, hset, hread⟩ := Option.bind_eq_some_iff.mp hread
          obtain ⟨rest', hread', hrest⟩ := ih hs hn hread
          exact ⟨rest', Option.bind_eq_some_iff.mpr ⟨next, hset, hread'⟩, hrest⟩

theorem kept_readGroupName (h : Follows t s s') :
    Kept (Follows t) (readGroupName s) (readGroupName s') := by
  apply (kept_splitAt? h '>').bind
  intro name r r' hr
  dsimp only
  split
  · exact kept_some _ hr
  · exact kept_none _

theorem sameRest_dropPrefix? (h : Follows t s s') (opening : List Char) (hopening : ')' ∉ opening) :
    SameRest t (Text.dropPrefix? opening s) (Text.dropPrefix? opening s') := by
  induction opening generalizing s s' with
  | nil => exact .some h
  | cons p opening ih =>
    cases s with
    | nil =>
      rcases h.nil_inv with rfl | ⟨rest, rfl⟩
      · exact .none
      · rw [Text.dropPrefix?, Text.dropPrefix?,
          if_neg (List.ne_of_not_mem_cons hopening).symm]
        exact .none
    | cons c s =>
      obtain ⟨rest, rfl, hrest⟩ := h.cons_inv
      rw [Text.dropPrefix?, Text.dropPrefix?]
      split
      · exact ih hrest (List.not_mem_of_not_mem_cons hopening)
      · exact .none

theorem isLookAround_marked (h : Follows t s s') : isLookAround s' = isLookAround s := by
  have starts : ∀ opening : List Char, ')' ∉ opening →
      Text.startsWith opening s' = Text.startsWith opening s := by
    intro opening hopening
    have hsame := sameRest_dropPrefix? h opening hopening
    unfold Text.startsWith
    generalize Text.dropPrefix? opening s = x at hsame
    generalize Text.dropPrefix? opening s' = x' at hsame
    cases hsame with
    | none => rfl
    | some => rfl
  unfold isLookAround
  simp only [List.any_cons, List.any_nil]
  rw [starts _ (by decide), starts _ (by decide), starts _ (by decide), starts _ (by decide)]

theorem readGroupStart_marked {scan scan' : Scan} (h : SameScan t scan scan') {start : GroupStart}
    (hread : readGroupStart scan = some start) :
    ∃ start', readGroupStart scan' = some start' ∧ SameGroup t start start' := by
  cases h with
  | intro h flags names groups =>
    rename_i r r'
    have hskip := follows_skip h flags
    unfold readGroupStart at hread ⊢
    dsimp only at hread ⊢
    generalize skip flags r = q at hread hskip
    generalize skip flags r' = q' at hskip
    rw [isLookAround_marked hskip]
    split at hread
    case isTrue => cases hread
    case isFalse hlook =>
      rw [if_neg hlook]
      have hnamed := (sameRest_dropPrefix? hskip "?P<".toList (by decide)).or
        (sameRest_dropPrefix? hskip "?<".toList (by decide))
      generalize (Text.dropPrefix? _ q).or _ = x at hread hnamed
      generalize (Text.dropPrefix? _ q').or _ = x' at hnamed
      cases hnamed with
      | some h =>
        obtain ⟨⟨name, rest⟩, hname, hread⟩ := Option.bind_eq_some_iff.mp hread
        obtain ⟨rest', hname', hrest⟩ := kept_readGroupName h name rest hname
        split at hread
        case isTrue => cases hread
        case isFalse hused =>
          cases hread
          refine ⟨_, ?_, .group (.intro hrest flags (name :: names) (groups + 1)) _⟩
          simp only [hname', Option.bind_eq_bind, Option.bind_some, if_neg hused]
          rfl
      | none =>
        simp only at hread ⊢
        split at hread
        case h_1 rest =>
          obtain ⟨rest', rfl, hrest⟩ := hskip.cons_inv
          obtain ⟨⟨next, isDirective, after⟩, hflags, hread⟩ := Option.bind_eq_some_iff.mp hread
          obtain ⟨after', hflags', hafter⟩ :=
            readFlags_marked hrest (Nat.succ_le_succ hrest.length_le) hflags
          simp only [hflags', Option.bind_eq_bind, Option.bind_some]
          have hflagged : rest ≠ [] := by
            rintro rfl
            cases hflags
          rw [hrest.head?_eq_of_ne_nil hflagged]
          dsimp only at hread
          split_ifs at hread ⊢
          case neg =>
            cases hread
            exact ⟨_, rfl, .directive (.intro hafter next names groups)⟩
          case neg =>
            cases hread
            exact ⟨_, rfl, .group (.intro hafter next names groups) none⟩
        case h_2 hmark =>
          split
          case h_1 rest' =>
            obtain ⟨rest, hq⟩ := hskip.eq_cons (by decide)
            exact (hmark rest hq).elim
          case h_2 =>
            cases hread
            exact ⟨_, rfl, .group (.intro hskip flags names (groups + 1)) _⟩

end Groups

section Repetitions

variable {t : EndMark} {s s' : List Char} {flags : Flags}

/-- The end of a counted repetition. -/
def closeRepetition (flags : Flags) (least : Nat) (most : Option Nat) :
    List Char → Option (Repetition × List Char)
  | '}' :: rest =>
      if most.all fun most => least ≤ most then
        some (readLazy flags least most (skip flags rest))
      else none
  | _ => none

variable (flags) in
theorem kept_readLazy (h : Follows t s s') (least : Nat) (most : Option Nat) :
    Kept (Follows t) (some (readLazy flags least most s)) (some (readLazy flags least most s')) := by
  unfold readLazy
  split
  case h_1 rest =>
    obtain ⟨rest', rfl, hrest⟩ := h.cons_inv
    exact kept_some _ hrest
  case h_2 hmark =>
    split
    case h_1 rest' =>
      obtain ⟨rest, hs⟩ := h.eq_cons (by decide)
      exact (hmark rest hs).elim
    case h_2 => exact kept_some _ h

theorem kept_closeRepetition (h : Follows t s s') (least : Nat) (most : Option Nat) :
    Kept (Follows t) (closeRepetition flags least most s)
      (closeRepetition flags least most s') := by
  unfold closeRepetition
  split
  case h_1 rest =>
    obtain ⟨rest', rfl, hrest⟩ := h.cons_inv
    split
    · exact kept_readLazy flags (follows_skip hrest flags) least most
    · exact kept_none _
  case h_2 => exact kept_none _

theorem kept_readRepetition (h : Follows t s s') :
    Kept (Follows t) (readRepetition flags s) (readRepetition flags s') := by
  unfold readRepetition
  apply (kept_readCount (follows_skip h flags)).bind
  intro least r r' hr
  by_cases hcomma : ∃ rest, r = ',' :: rest
  · obtain ⟨rest, rfl⟩ := hcomma
    obtain ⟨rest', rfl, hrest⟩ := hr.cons_inv
    have hskip := follows_skip hrest flags
    simp only
    generalize skip flags rest = q at hskip
    generalize skip flags rest' = q' at hskip
    split
    case h_1 rest =>
      obtain ⟨rest', rfl, hrest⟩ := hskip.cons_inv
      exact kept_closeRepetition hskip least none
    case h_2 hclosing =>
      split
      case h_1 rest' =>
        obtain ⟨rest, hq⟩ := hskip.eq_cons (by decide)
        exact (hclosing rest hq).elim
      case h_2 =>
        apply (kept_readCount hskip).bind
        intro most r r' hr
        exact kept_closeRepetition hr least (some most)
  · have hcomma' : ¬ ∃ rest', r' = ',' :: rest' := by
      rintro ⟨rest', rfl⟩
      exact hcomma (hr.eq_cons (by decide))
    split
    rename_i least' s heq
    cases heq
    split
    case h_1 rest => exact absurd ⟨rest, rfl⟩ hcomma
    case h_2 =>
      split
      case h_1 rest' => exact absurd ⟨rest', rfl⟩ hcomma'
      case h_2 => exact kept_closeRepetition hr least (some least)

/-- Whether a sign repeats the last item with one rest as with the other, with the mark after what
is left. -/
inductive SameOperator (t : EndMark) : (x y : Option (Repetition × List Char)) → Prop
  | none : SameOperator t none none
  | some (repetition : Repetition) {r r' : List Char} (h : Follows t r r') :
      SameOperator t (some (repetition, r)) (some (repetition, r'))

theorem readOperator_marked (h : Follows t s s') {c : Char}
    {x : Option (Repetition × List Char)} (hread : readOperator flags c s = some x) :
    ∃ y, readOperator flags c s' = some y ∧ SameOperator t x y := by
  have lazy : ∀ least most {x : Option (Repetition × List Char)},
      some (some (readLazy flags least most s)) = some x →
        ∃ y, some (some (readLazy flags least most s')) = some y ∧ SameOperator t x y := by
    rintro least most _ ⟨⟩
    obtain ⟨r', heq, hr'⟩ := kept_readLazy flags h least most _ _ rfl
    rw [Option.some.inj heq]
    exact ⟨_, rfl, .some _ hr'⟩
  unfold readOperator at hread ⊢
  split at hread
  · exact lazy 0 (some 1) hread
  · exact lazy 0 none hread
  · exact lazy 1 none hread
  · obtain ⟨p, hp, heq⟩ := Option.map_eq_some_iff.mp hread
    cases heq
    obtain ⟨r', hp', hr'⟩ := kept_readRepetition h p.1 p.2 hp
    exact ⟨some (p.1, r'), by rw [hp', Option.map_some], .some p.1 hr'⟩
  · cases hread
    exact ⟨none, rfl, .none⟩

theorem kept_readAtom (h : Follows t s s') (c : Char) :
    Kept (Follows t) (readAtom flags c s) (readAtom flags c s') := by
  unfold readAtom
  split
  · exact kept_map_same _ id h
  · exact kept_some _ h
  · exact kept_some _ h
  · exact (kept_readEscape h).map _
  · exact kept_some _ h

end Repetitions

section Bodies

variable {t : EndMark} {n n' : Nat}

/-- A group is read before what follows it, so both have to be kept. -/
theorem kept_readBody_group
    (hread : ∀ {scan scan' : Scan}, SameScan t scan scan' → ∀ items branches : List Item,
      Kept (SameScan t) (readBody n items branches scan) (readBody n' items branches scan'))
    {flags : Flags} {s s' rest rest' : List Char} (hs : skip flags s = '(' :: rest)
    (hs' : skip flags s' = '(' :: rest') (h : Follows t rest rest') (names : List (List Char))
    (groups : Nat) (items branches : List Item) :
    Kept (SameScan t) (readBody (n + 1) items branches ⟨s, flags, names, groups⟩)
      (readBody (n' + 1) items branches ⟨s', flags, names, groups⟩) := by
  unfold readBody
  simp only [hs, hs']
  apply kept_bind
  intro start hstart
  obtain ⟨start', hstart', hsame⟩ := readGroupStart_marked (.intro h flags names groups) hstart
  refine ⟨start', hstart', ?_⟩
  cases hsame with
  | directive hafter => exact hread hafter _ _
  | group hinside number =>
    apply (hread hinside [] []).bind
    intro body inside inside' hsame
    cases hsame with
    | intro hclose flags' names' groups' =>
      dsimp only
      split
      case h_1 rest =>
        obtain ⟨rest', rfl, hrest⟩ := hclose.cons_inv
        exact hread (.intro hrest flags names' groups') _ _
      case h_2 => exact kept_none _

/-- What is read of a pattern by itself is read with the mark after it too. -/
theorem kept_readBody {scan scan' : Scan} (h : SameScan t scan scan') (hn : n ≤ n')
    (items branches : List Item) :
    Kept (SameScan t) (readBody n items branches scan) (readBody n' items branches scan') := by
  induction n generalizing scan scan' n' items branches with
  | zero => exact kept_none _
  | succ n ih =>
    cases n' with
    | zero => exact absurd hn (Nat.not_succ_le_zero n)
    | succ n' =>
      replace hn := Nat.le_of_succ_le_succ hn
      cases h with
      | intro h flags names groups =>
        rename_i r r'
        have hskip := follows_skip h flags
        by_cases hgroup : ∃ rest, skip flags r = '(' :: rest
        · obtain ⟨rest, hr⟩ := hgroup
          rw [hr] at hskip
          obtain ⟨rest', hr', hrest⟩ := hskip.cons_inv
          exact kept_readBody_group (fun h => ih h hn) hr hr' hrest names groups items branches
        unfold readBody
        dsimp only
        generalize skip flags r = q at hskip hgroup
        generalize skip flags r' = q' at hskip
        split
        case h_1 =>
          -- the end of the pattern, where the mark starts and ends the reading as well
          rcases hskip.nil_inv with rfl | ⟨rest, rfl⟩
          · exact kept_some _ (.intro hskip flags names groups)
          · exact kept_some _ (.intro hskip flags names groups)
        case h_2 rest =>
          obtain ⟨rest', rfl, hrest⟩ := hskip.cons_inv
          exact kept_some _ (.intro hskip flags names groups)
        case h_3 rest =>
          obtain ⟨rest', rfl, hrest⟩ := hskip.cons_inv
          exact ih (.intro hrest flags names groups) hn _ _
        case h_4 rest => exact absurd ⟨rest, rfl⟩ hgroup
        case h_5 rest =>
          obtain ⟨rest', rfl, hrest⟩ := hskip.cons_inv
          have hopen := sameStart_openClass flags hrest
          simp only
          generalize openClass flags rest = x at hopen
          generalize openClass flags rest' = x' at hopen
          cases hopen with
          | intro negated start hstart =>
            apply (kept_readClass hstart negated (Nat.succ_le_succ hstart.length_le) _ _).bind
            intro nested r r' hr
            exact ih (.intro hr flags names groups) hn _ _
        case h_6 c rest hclosing hbar hopening hbracket =>
          obtain ⟨rest', rfl, hrest⟩ := hskip.cons_inv
          simp only
          apply kept_bind
          intro x hx
          obtain ⟨y, hy, hsame⟩ := readOperator_marked hrest hx
          refine ⟨y, hy, ?_⟩
          cases hsame with
          | some repetition hr =>
            apply kept_bind_same
            intro items
            exact ih (.intro hr flags names groups) hn _ _
          | none =>
            apply (kept_readAtom hrest c).bind
            intro atom r r' hr
            exact ih (.intro hr flags names groups) hn _ _

end Bodies

end DocMatch.Regex
