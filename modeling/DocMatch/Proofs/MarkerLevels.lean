import DocMatch.Proofs.Nesting
import DocMatch.Proofs.PlainPatterns
import DocMatch.Proofs.Scanning
/-!
Levels of element markers.  A marker of sequences may hold a marker of their elements, which
may hold another one.  These levels are part of a single text, so the depth limit does not
bound them; what bounds them is the length of the text.
-/

namespace DocMatch

namespace Marker

/-- How many element markers are in the marker, each in the one before. -/
def levels : Marker → Nat
  | .validator .. => 0
  | .sequence _ _ _ none => 0
  | .sequence _ _ _ (some each) => each.levels + 1

variable {registry : Registry} {text size tail : List Char} {isOptional : Bool}

/-- The brackets of a marker, and the sign before them, are three characters. -/
theorem length_of_readShape (h : readShape text = some (isOptional, .sequence size tail)) :
    tail.length + 3 ≤ text.length := by
  have hbody : ∀ {s : List Char} {flag : Bool},
      (readBody s).map (flag, ·) = some (isOptional, Shape.sequence size tail) →
        tail.length + 2 ≤ s.length := by
    intro s flag h
    obtain ⟨shape, hshape, heq⟩ := Option.map_eq_some_iff.1 h
    cases heq
    unfold readBody at hshape
    split at hshape
    · cases hshape
    · cases hshape
    · split at hshape
      · rename_i hspan
        cases hshape
        rw [(span_eq_iff.1 hspan).1, List.length_cons, List.length_append, List.length_cons]
        omega
      · cases hshape
    · unfold readNamed at hshape
      split at hshape <;> cases hshape
  unfold readShape at h
  split at h
  · have hle := hbody h
    simp only [List.length_cons]
    omega
  · have hle := hbody h
    rw [List.length_cons]
    omega
  · cases h

/-- A marker keeps the text it is read from, which has three characters for each level. -/
theorem length_of_readLevels {steps : Nat} {m : Marker}
    (h : readLevels registry steps text = .ok (some m)) :
    m.text = String.ofList text ∧ 3 * m.levels ≤ text.length := by
  induction steps generalizing text m with
  | zero => cases h
  | succ steps ih =>
      unfold readLevels at h
      simp only at h
      split at h
      · cases h
      · cases h
      · obtain ⟨reading, -, h⟩ := bind_eq_ok_iff.1 h
        cases reading with
        | none => cases h
        | some argument =>
            obtain ⟨v, -, h⟩ := bind_eq_ok_iff.1 h
            cases v with
            | none => cases h
            | some v =>
                cases h
                exact ⟨rfl, Nat.zero_le _⟩
      · rename_i tail hshape
        obtain ⟨size, -, h⟩ := bind_eq_ok_iff.1 h
        split at h
        · cases h
          exact ⟨rfl, Nat.zero_le _⟩
        · obtain ⟨reading, hread, h⟩ := bind_eq_ok_iff.1 h
          cases reading with
          | none => cases h
          | some each =>
              cases h
              have hlength := length_of_readShape hshape
              obtain ⟨-, hlevels⟩ := ih hread
              have htrim := Text.length_trim_le tail
              refine ⟨rfl, ?_⟩
              rw [levels]
              omega

/-- A marker keeps the text it is read from. -/
theorem text_of_read {text : String} {m : Marker} (h : read registry text = .ok (some m)) :
    m.text = text := by
  rw [(length_of_readLevels h).1, String.ofList_toList]

/-- Empty brackets, one after another. -/
def bracketChars : Nat → List Char
  | 0 => []
  | n + 1 => '#' :: '[' :: ']' :: bracketChars n

/-- The marker that is written by empty brackets one after another, one of them on its own at
the end. -/
def nested : Nat → Marker
  | 0 => .sequence (String.ofList (bracketChars 1)) false none none
  | n + 1 => .sequence (String.ofList (bracketChars (n + 2))) false none (some (nested n))

theorem levels_nested (n : Nat) : (nested n).levels = n := by
  induction n with
  | zero => rfl
  | succ n ih => rw [nested, levels, ih]

theorem length_bracketChars (n : Nat) : (bracketChars n).length = 3 * n := by
  induction n with
  | zero => rfl
  | succ n ih =>
      simp only [bracketChars, List.length_cons, ih]
      omega

theorem getLast?_bracketChars (n : Nat) : (bracketChars (n + 1)).getLast? = some ']' := by
  induction n with
  | zero => rfl
  | succ n ih =>
      rw [bracketChars, List.getLast?_cons, List.getLast?_cons, List.getLast?_cons, ih]
      rfl

theorem trimmed_bracketChars (n : Nat) : Text.Trimmed (bracketChars (n + 1)) := by
  constructor
  · rintro c ⟨⟩
    decide
  · rw [getLast?_bracketChars]
    rintro c ⟨⟩
    decide

/-- Brackets one after another are read as markers one in another. -/
theorem readLevels_bracketChars {n steps : Nat} (h : n < steps) :
    readLevels registry steps (bracketChars (n + 1)) = .ok (some (nested n)) := by
  obtain ⟨steps, rfl⟩ : ∃ fewer, steps = fewer + 1 := ⟨steps - 1, by omega⟩
  induction n generalizing steps with
  | zero => rfl
  | succ n ih =>
      obtain ⟨steps, rfl⟩ : ∃ fewer, steps = fewer + 1 := ⟨steps - 1, by omega⟩
      have hshape : readShape (bracketChars (n + 2)) =
          some (false, .sequence [] (bracketChars (n + 1))) := rfl
      have hsize : readSize (bracketChars (n + 2)) [] = .ok none := rfl
      have htrim : Text.trim (bracketChars (n + 1)) = '#' :: '[' :: ']' :: bracketChars n :=
        (trimmed_bracketChars n).trim_eq
      rw [readLevels]
      simp only [hshape, hsize, htrim]
      have hread : readLevels registry (steps + 1) ('#' :: '[' :: ']' :: bracketChars n) =
          .ok (some (nested n)) := ih _ (by omega)
      rw [hread]
      rfl

end Marker

/-- The levels of element markers in a leaf. -/
def Leaf.markerLevels : Leaf → Nat
  | .marker m => m.levels
  | .literal _ => 0

/-- The levels below a pattern, those of element markers included. -/
def Pattern.levels (p : Pattern) : Nat :=
  p.height Leaf.markerLevels

section Height

variable {ofLeaf : Leaf → Nat} {n : Nat}

/-- Leaves add to the levels of a pattern at most what the highest of them has. -/
theorem ElementPattern.height_le_of_everyLeaf {p : ElementPattern}
    (h : p.EveryLeaf fun l => ofLeaf l ≤ n) : p.height ofLeaf ≤ p.nesting + n := by
  induction h with
  | leaf hattributes htext =>
      rw [height_leaf_le_iff, nesting_leaf, Nat.zero_add]
      exact ⟨hattributes, htext⟩
  | @branch name attributes children hattributes _ ih =>
      rw [height_branch_le_iff]
      refine ⟨fun a ha => Nat.le_add_left_of_le (hattributes a ha), ?_⟩
      intro child hchild
      have hlt : child.nesting < (branch name attributes children).nesting :=
        nesting_branch_le_iff.1 (Nat.le_refl _) child hchild
      have hle := ih child hchild
      omega

/-- Leaves add to the levels of a pattern at most what the highest of them has. -/
theorem Pattern.height_le_of_everyLeaf {p : Pattern} (h : p.EveryLeaf fun l => ofLeaf l ≤ n) :
    p.height ofLeaf ≤ p.nesting + n := by
  induction h with
  | leaf hl => exact Nat.le_add_left_of_le hl
  | @sequence items _ ih =>
      rw [height_sequence_le_iff]
      intro p hp
      have hlt : p.nesting < (sequence items).nesting :=
        height_sequence_le_iff.1 (Nat.le_refl _) p hp
      have hle := ih p hp
      omega
  | @mapping entries _ ih =>
      rw [height_mapping_le_iff]
      intro entry hentry
      have hlt : entry.2.nesting < (mapping entries).nesting :=
        height_mapping_le_iff.1 (Nat.le_refl _) entry hentry
      have hle := ih entry hentry
      omega
  | element he => exact ElementPattern.height_le_of_everyLeaf he

end Height

/-- Brackets one after another compile under any limit: they need no name, so they are a marker
whatever markers are registered. -/
theorem Matcher.compile_bracketChars (m : Matcher) (n : Nat) :
    m.compile (.string (String.ofList (Marker.bracketChars (n + 1)))) =
      .ok (.leaf (.marker (Marker.nested n))) := by
  have hread : Marker.read m.registry (String.ofList (Marker.bracketChars (n + 1))) =
      .ok (some (Marker.nested n)) := by
    rw [Marker.read, String.toList_ofList]
    apply Marker.readLevels_bracketChars
    rw [Marker.length_bracketChars]
    omega
  have hescaped : Pattern.unescaped? (String.ofList (Marker.bracketChars (n + 1))) = none := by
    simp [Pattern.unescaped?, Marker.bracketChars]
  have htext : Pattern.readText m.registry m.settings
      (String.ofList (Marker.bracketChars (n + 1))) = .ok (.leaf (.marker (Marker.nested n))) := by
    rw [Pattern.readText, hescaped]
    simp only [hread]
  rw [compile, Pattern.compile, Pattern.compileWithin, htext]
  rfl

/-- The depth limit bounds the levels of sequences, mappings and elements, but not those of
element markers.  These add at most what the marker with the most of them has, a third of the
length of its text at most; and there is no limit under which a text could not have any number
of them. -/
theorem limit_bounds_all_but_marker_levels (m : Matcher) :
    (∀ expected p, m.compile expected = .ok p →
      p.nesting ≤ m.settings.maxDepth ∧
      (p.EveryLeaf fun l => 3 * l.markerLevels ≤ l.text.toList.length) ∧
      ∀ n, (p.EveryLeaf fun l => l.markerLevels ≤ n) → p.levels ≤ m.settings.maxDepth + n) ∧
    ∀ n, ∃ expected p, m.compile expected = .ok p ∧ p.nesting = 0 ∧ p.levels = n := by
  constructor
  · intro expected p hp
    obtain ⟨hnesting, hlt⟩ := Pattern.nesting_of_compileWithin hp
    have hle : p.nesting ≤ m.settings.maxDepth := by omega
    refine ⟨hle, ?_, ?_⟩
    · apply Pattern.everyLeaf_of_compileWithin _ _ hp
      · exact fun v _ => Nat.zero_le _
      · intro text marker hread
        obtain ⟨htext, hlevels⟩ := Marker.length_of_readLevels hread
        rw [Leaf.text, Leaf.toValue, htext, String.toList_ofList]
        exact hlevels
    · intro n hleaves
      have hheight := Pattern.height_le_of_everyLeaf hleaves
      exact Nat.le_trans hheight (Nat.add_le_add_right hle n)
  · intro n
    exact ⟨_, _, m.compile_bracketChars n, rfl, Marker.levels_nested n⟩

/-- With no level allowed, a sequence of sequences of texts may still be expected by a marker,
whose two levels are less than a third of its text. -/
theorem marker_levels_with_no_level_allowed :
    let m : Matcher := ⟨.builtin, ⟨0, false, true⟩⟩
    (∃ p, m.compile (.string "#[] #[] #string") = .ok p ∧ p.nesting ≤ 0 ∧ p.levels ≤ 0 + 2) ∧
      ∃ expected p, m.compile expected = .ok p ∧ p.nesting = 0 ∧ p.levels = 1000 := by
  intro m
  let each : Marker :=
    .sequence "#[] #string" false none (some (.validator "#string" false .string))
  have hcompile : m.compile (.string "#[] #[] #string") =
      .ok (.leaf (.marker (.sequence "#[] #[] #string" false none (some each)))) := rfl
  obtain ⟨hbounds, hlevels⟩ := limit_bounds_all_but_marker_levels m
  obtain ⟨hnesting, -, hsum⟩ := hbounds _ _ hcompile
  exact ⟨⟨_, hcompile, hnesting, hsum 2 (.leaf (Nat.le_refl 2))⟩, hlevels 1000⟩

/-- So the levels of a pattern are not always within the limit: here none is allowed, and the
marker has two. -/
theorem levels_not_always_within_limit :
    let m : Matcher := ⟨.builtin, ⟨0, false, true⟩⟩
    (∃ p, m.compile (.string "#[] #[] #string") = .ok p ∧ p.levels = 2) ∧
    ¬ ∀ (m : Matcher) (expected : Value) (p : Pattern), m.compile expected = .ok p →
      p.levels ≤ m.settings.maxDepth := by
  intro m
  let each : Marker :=
    .sequence "#[] #string" false none (some (.validator "#string" false .string))
  have hcompile : m.compile (.string "#[] #[] #string") =
      .ok (.leaf (.marker (.sequence "#[] #[] #string" false none (some each)))) := rfl
  refine ⟨⟨_, hcompile, rfl⟩, ?_⟩
  intro hall
  have hle : 2 ≤ 0 := hall m _ _ hcompile
  omega

end DocMatch
