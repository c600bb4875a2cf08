import DocMatch.Proofs.Escaped
import DocMatch.Proofs.TextLengths
/-!
How deeply values and patterns are nested.  A value compiles only if there is room for all its
levels, the depth limit is named only where there is none, and a pattern has as many levels as
the value it comes from.
-/

namespace DocMatch

namespace Pattern

variable {registry : Registry} {settings : Settings} {text : String} {v : Value}

theorem readDocument_of_document? (h : document? settings text = some v) :
    Value.readDocument text = .ok v := by
  unfold document? at h
  split at h
  · cases hread : Value.readDocument text with
    | error e =>
        rw [hread] at h
        cases h
    | ok w =>
        rw [hread] at h
        cases h
        rfl
  · cases h

theorem document?_of_readText (h : readText registry settings text = .ok (.document v)) :
    document? settings text = some v := by
  unfold readText at h
  split at h
  · cases h
  · split at h
    · cases h
    · cases h
    · split at h
      · rename_i hdocument
        cases h
        exact hdocument
      · cases h

/-- A text means a document only if it holds one. -/
theorem readDocument_of_readText (h : readText registry settings text = .ok (.document v)) :
    Value.readDocument text = .ok v :=
  readDocument_of_document? (document?_of_readText h)

end Pattern

namespace Value

section Nesting

variable (registry : Registry) (settings : Settings)

mutual

/-- How many levels of parts are below the value, where a text that means a document has the
levels of the document. -/
def nesting : Value → Nat
  | .string text =>
      match _h : Pattern.readText registry settings text with
      | .ok (.document v) => v.nesting
      | _ => 0
  | .sequence items => nestingOfItems items
  | .mapping entries => nestingOfEntries entries
  | .element e => e.depth
  | _ => 0
-- The document that a text means need not be smaller than the text, but its texts are shorter.
termination_by v => (v.longestText, sizeOf v)
decreasing_by
  · exact Prod.Lex.left _ _
      (longestText_lt_of_readDocument (Pattern.readDocument_of_readText _h))
  · exact Prod.Lex.right' _ (Nat.le_of_eq (by rw [longestText])) (by simp)
  · exact Prod.Lex.right' _ (Nat.le_of_eq (by rw [longestText])) (by simp)

/-- How many levels the items have. -/
def nestingOfItems : List Value → Nat
  | [] => 0
  | v :: rest => max (v.nesting + 1) (nestingOfItems rest)
termination_by items => (longestTextOfItems items, sizeOf items)
decreasing_by
  · refine Prod.Lex.right' _ (Nat.le_max_left ..) ?_
    rw [List.cons.sizeOf_spec]
    omega
  · refine Prod.Lex.right' _ (Nat.le_max_right ..) ?_
    rw [List.cons.sizeOf_spec]
    omega

/-- How many levels the values of the entries have. -/
def nestingOfEntries : Fields Value → Nat
  | [] => 0
  | (_, v) :: rest => max (v.nesting + 1) (nestingOfEntries rest)
termination_by entries => (longestTextOfEntries entries, sizeOf entries)
decreasing_by
  · refine Prod.Lex.right' _ (Nat.le_max_left ..) ?_
    rw [List.cons.sizeOf_spec, Prod.mk.sizeOf_spec]
    omega
  · refine Prod.Lex.right' _ (Nat.le_max_right ..) ?_
    rw [List.cons.sizeOf_spec, Prod.mk.sizeOf_spec]
    omega

end

end Nesting

variable {registry : Registry} {settings : Settings}

theorem nestingOfItems_le_iff {items : List Value} {n : Nat} :
    nestingOfItems registry settings items ≤ n ↔
      ∀ v ∈ items, v.nesting registry settings < n := by
  induction items with
  | nil => simp [nestingOfItems]
  | cons v rest ih =>
      rw [nestingOfItems, Nat.max_le, ih, List.forall_mem_cons, Nat.succ_le_iff]

theorem nestingOfEntries_le_iff {entries : Fields Value} {n : Nat} :
    nestingOfEntries registry settings entries ≤ n ↔
      ∀ entry ∈ entries, entry.2.nesting registry settings < n := by
  induction entries with
  | nil => simp [nestingOfEntries]
  | cons entry rest ih =>
      rw [nestingOfEntries, Nat.max_le, ih, List.forall_mem_cons, Nat.succ_le_iff]

theorem nesting_of_document {text : String} {v : Value}
    (h : Pattern.readText registry settings text = .ok (.document v)) :
    (Value.string text).nesting registry settings = v.nesting registry settings := by
  rw [nesting]
  split
  · rename_i hread
    rw [h] at hread
    cases hread
    rfl
  · rename_i hread
    exact absurd h (hread v)

theorem nesting_of_leaf {text : String} {l : Leaf}
    (h : Pattern.readText registry settings text = .ok (.leaf l)) :
    (Value.string text).nesting registry settings = 0 := by
  rw [nesting]
  split
  · rename_i hread
    rw [h] at hread
    cases hread
  · rfl

end Value

namespace ElementPattern

/-- The most levels that an attribute has. -/
def heightOfAttributes (ofLeaf : Leaf → Nat) : Fields Leaf → Nat
  | [] => 0
  | (_, l) :: rest => max (ofLeaf l) (heightOfAttributes ofLeaf rest)

mutual

/-- How many levels are below the pattern, where its leaves have levels of their own. -/
def height (ofLeaf : Leaf → Nat) : ElementPattern → Nat
  | .leaf _ attributes text => max (heightOfAttributes ofLeaf attributes) (ofLeaf text)
  | .branch _ attributes children =>
      max (heightOfAttributes ofLeaf attributes) (heightOfChildren ofLeaf children)

/-- How many levels the children have. -/
def heightOfChildren (ofLeaf : Leaf → Nat) : List ElementPattern → Nat
  | [] => 0
  | child :: rest => max (child.height ofLeaf + 1) (heightOfChildren ofLeaf rest)

end

variable {ofLeaf : Leaf → Nat} {name : String} {attributes : Fields Leaf} {n : Nat}

theorem heightOfAttributes_le_iff :
    heightOfAttributes ofLeaf attributes ≤ n ↔ ∀ a ∈ attributes, ofLeaf a.2 ≤ n := by
  induction attributes with
  | nil => simp [heightOfAttributes]
  | cons a rest ih => rw [heightOfAttributes, Nat.max_le, ih, List.forall_mem_cons]

theorem height_leaf_le_iff {text : Leaf} :
    (leaf name attributes text).height ofLeaf ≤ n ↔
      (∀ a ∈ attributes, ofLeaf a.2 ≤ n) ∧ ofLeaf text ≤ n := by
  rw [height, Nat.max_le, heightOfAttributes_le_iff]

theorem height_branch_le_iff {children : List ElementPattern} :
    (branch name attributes children).height ofLeaf ≤ n ↔
      (∀ a ∈ attributes, ofLeaf a.2 ≤ n) ∧ ∀ child ∈ children, child.height ofLeaf < n := by
  rw [height, Nat.max_le, heightOfAttributes_le_iff]
  apply and_congr_right
  intro _
  induction children with
  | nil => simp [heightOfChildren]
  | cons child rest ih =>
      rw [heightOfChildren, Nat.max_le, ih, List.forall_mem_cons, Nat.succ_le_iff]

/-- How many levels of child elements are below the pattern. -/
def nesting (p : ElementPattern) : Nat :=
  p.height fun _ => 0

theorem nesting_leaf (name : String) (attributes : Fields Leaf) (text : Leaf) :
    (leaf name attributes text).nesting = 0 := by
  apply Nat.eq_zero_of_le_zero
  rw [nesting, height_leaf_le_iff]
  exact ⟨fun _ _ => Nat.le_refl _, Nat.le_refl _⟩

theorem nesting_branch_le_iff {children : List ElementPattern} :
    (branch name attributes children).nesting ≤ n ↔ ∀ child ∈ children, child.nesting < n := by
  rw [nesting, height_branch_le_iff]
  exact and_iff_right fun _ _ => Nat.zero_le _

end ElementPattern

namespace Pattern

mutual

/-- How many levels are below the pattern, where its leaves have levels of their own. -/
def height (ofLeaf : Leaf → Nat) : Pattern → Nat
  | .leaf l => ofLeaf l
  | .sequence items => heightOfItems ofLeaf items
  | .mapping entries => heightOfEntries ofLeaf entries
  | .element e => e.height ofLeaf

/-- How many levels the items have. -/
def heightOfItems (ofLeaf : Leaf → Nat) : List Pattern → Nat
  | [] => 0
  | p :: rest => max (p.height ofLeaf + 1) (heightOfItems ofLeaf rest)

/-- How many levels the values of the entries have. -/
def heightOfEntries (ofLeaf : Leaf → Nat) : Fields Pattern → Nat
  | [] => 0
  | (_, p) :: rest => max (p.height ofLeaf + 1) (heightOfEntries ofLeaf rest)

end

variable {ofLeaf : Leaf → Nat} {n : Nat}

theorem height_sequence_le_iff {items : List Pattern} :
    (sequence items).height ofLeaf ≤ n ↔ ∀ p ∈ items, p.height ofLeaf < n := by
  rw [height]
  induction items with
  | nil => simp [heightOfItems]
  | cons p rest ih => rw [heightOfItems, Nat.max_le, ih, List.forall_mem_cons, Nat.succ_le_iff]

theorem height_mapping_le_iff {entries : Fields Pattern} :
    (mapping entries).height ofLeaf ≤ n ↔ ∀ entry ∈ entries, entry.2.height ofLeaf < n := by
  rw [height]
  induction entries with
  | nil => simp [heightOfEntries]
  | cons entry rest ih =>
      rw [heightOfEntries, Nat.max_le, ih, List.forall_mem_cons, Nat.succ_le_iff]

/-- How many levels of items, entries and child elements are below the pattern. -/
def nesting (p : Pattern) : Nat :=
  p.height fun _ => 0

/-- Where each result has the levels of what it comes from, all results together do. -/
theorem levels_of_forall₂ {α β : Type} {rel : α → β → Prop} {before : α → Nat} {after : β → Nat}
    {room : Nat} {values : List α} {results : List β} (h : List.Forall₂ rel values results)
    (hlevels : ∀ v ∈ values, ∀ r, rel v r → after r = before v ∧ before v < room) :
    (∀ v ∈ values, before v < room) ∧
      ∀ n, (∀ r ∈ results, after r < n) ↔ ∀ v ∈ values, before v < n := by
  induction h with
  | nil => simp
  | cons hrel _ ih =>
      rw [List.forall_mem_cons] at hlevels
      obtain ⟨hafter, hlt⟩ := hlevels.1 _ hrel
      obtain ⟨hroom, hrest⟩ := ih hlevels.2
      refine ⟨List.forall_mem_cons.2 ⟨hlt, hroom⟩, ?_⟩
      intro n
      rw [List.forall_mem_cons, List.forall_mem_cons, hafter, hrest]

variable {registry : Registry} {settings : Settings} {limit limit' room : Nat}

theorem readLeaf_ne_depthLimit (text : String) :
    readLeaf registry text ≠ .error (.depthLimit limit) := by
  unfold readLeaf
  split
  · exact nofun
  · split <;> exact nofun

theorem readText_ne_depthLimit (text : String) :
    readText registry settings text ≠ .error (.depthLimit limit) := by
  unfold readText
  split
  · exact nofun
  · split
    · exact nofun
    · exact nofun
    · split <;> exact nofun

/-- An element compiles only where there is room for all its levels, and the pattern has
just these levels. -/
theorem nesting_of_compileElement (e : Element) :
    ∀ {room : Nat} {p : ElementPattern}, compileElement registry limit room e = .ok p →
      p.nesting = e.depth ∧ e.depth < room := by
  induction e using Element.induct with
  | step e ih =>
      intro room p h
      cases room with
      | zero => cases h
      | succ room =>
          cases hleaf : e.isLeaf with
          | true =>
              obtain ⟨_, _, -, -, rfl⟩ := (compileElement_leaf_iff hleaf).1 h
              have hdepth : e.depth = 0 := by
                apply Nat.eq_zero_of_le_zero
                rw [Element.depth_le_iff, List.isEmpty_iff.1 hleaf]
                exact List.forall_mem_nil _
              rw [hdepth]
              exact ⟨ElementPattern.nesting_leaf .., Nat.succ_pos _⟩
          | false =>
              obtain ⟨_, children, -, hchildren, rfl⟩ := (compileElement_branch_iff hleaf).1 h
              rw [compileList_eq_ok_iff] at hchildren
              obtain ⟨hroom, hsame⟩ :=
                levels_of_forall₂ hchildren fun child hchild _ hp => ih child hchild hp
              refine ⟨eq_of_forall_ge_iff fun n => ?_, ?_⟩
              · rw [ElementPattern.nesting_branch_le_iff, Element.depth_le_iff]
                exact hsame n
              · rw [Nat.lt_succ_iff, Element.depth_le_iff]
                exact hroom

/-- The depth limit is named only for an element that there is no room for. -/
theorem le_depth_of_compileElement (e : Element) :
    ∀ {room : Nat}, compileElement registry limit room e = .error (.depthLimit limit') →
      room ≤ e.depth := by
  induction e using Element.induct with
  | step e ih =>
      intro room h
      cases room with
      | zero => exact Nat.zero_le _
      | succ room =>
          -- attributes and texts fail only for their markers, so a child element is too deep
          rw [compileElement] at h
          rcases bind_eq_error_iff.1 h with hattributes | ⟨attributes, -, h⟩
          · obtain ⟨a, -, ha⟩ := exists_of_compileFields_error hattributes
            exact absurd ha (readLeaf_ne_depthLimit _)
          · split at h
            · cases htext : e.text? with
              | none =>
                  simp only [htext] at h
                  cases h
              | some text =>
                  simp only [htext] at h
                  rcases bind_eq_error_iff.1 h with herror | ⟨_, -, hok⟩
                  · exact absurd herror (readLeaf_ne_depthLimit _)
                  · cases hok
            · rcases bind_eq_error_iff.1 h with hchildren | ⟨_, -, hok⟩
              · obtain ⟨child, hchild, herror⟩ := exists_of_compileList_error hchildren
                have hlt := Element.depth_le_iff.1 (Nat.le_refl e.depth) child hchild
                exact Nat.lt_of_le_of_lt (ih child hchild herror) hlt
              · cases hok

/-- The parts of a value compile only where there is room for all its levels, and the pattern
has just these levels. -/
theorem nesting_of_compileParts {inner : Value → Except MatchError Pattern}
    (hinner : ∀ v p, inner v = .ok p →
      p.nesting = v.nesting registry settings ∧ v.nesting registry settings < room)
    {v : Value} (hv : v.string? = none) {p : Pattern}
    (h : compileParts inner (compileElement registry limit (room + 1)) v = .ok p) :
    p.nesting = v.nesting registry settings ∧ v.nesting registry settings < room + 1 := by
  cases v with
  | string text => cases hv
  | sequence items =>
      obtain ⟨ps, hps, rfl⟩ := map_eq_ok_iff.1 h
      obtain ⟨hroom, hsame⟩ :=
        levels_of_forall₂ (compileList_eq_ok_iff.1 hps) fun v _ p hp => hinner v p hp
      rw [Value.nesting]
      refine ⟨eq_of_forall_ge_iff fun n => ?_, ?_⟩
      · rw [nesting, height_sequence_le_iff, Value.nestingOfItems_le_iff]
        exact hsame n
      · rw [Nat.lt_succ_iff, Value.nestingOfItems_le_iff]
        exact hroom
  | mapping entries =>
      obtain ⟨ps, hps, rfl⟩ := map_eq_ok_iff.1 h
      obtain ⟨hroom, hsame⟩ :=
        levels_of_forall₂ (compileFields_eq_ok_iff.1 hps) fun v _ p hp => hinner v.2 p.2 hp.2
      rw [Value.nesting]
      refine ⟨eq_of_forall_ge_iff fun n => ?_, ?_⟩
      · rw [nesting, height_mapping_le_iff, Value.nestingOfEntries_le_iff]
        exact hsame n
      · rw [Nat.lt_succ_iff, Value.nestingOfEntries_le_iff]
        exact hroom
  | element e =>
      obtain ⟨p, hp, rfl⟩ := map_eq_ok_iff.1 h
      rw [Value.nesting]
      exact nesting_of_compileElement e hp
  | _ =>
      cases h
      simp [nesting, height, Value.nesting]

/-- The depth limit is named for the parts of a value only if there is no room for them. -/
theorem le_nesting_of_compileParts {inner : Value → Except MatchError Pattern}
    (hinner : ∀ v, inner v = .error (.depthLimit limit') → room ≤ v.nesting registry settings)
    {v : Value}
    (h : compileParts inner (compileElement registry limit (room + 1)) v =
      .error (.depthLimit limit')) : room + 1 ≤ v.nesting registry settings := by
  cases v with
  | sequence items =>
      obtain ⟨v, hv, herror⟩ := exists_of_compileList_error (map_eq_error_iff.1 h)
      rw [Value.nesting]
      apply Nat.lt_of_le_of_lt (hinner v herror)
      exact Value.nestingOfItems_le_iff.1 (Nat.le_refl _) v hv
  | mapping entries =>
      obtain ⟨entry, hentry, herror⟩ := exists_of_compileFields_error (map_eq_error_iff.1 h)
      rw [Value.nesting]
      apply Nat.lt_of_le_of_lt (hinner entry.2 herror)
      exact Value.nestingOfEntries_le_iff.1 (Nat.le_refl _) entry hentry
  | element e =>
      rw [Value.nesting]
      exact le_depth_of_compileElement e (map_eq_error_iff.1 h)
  | _ => cases h

/-- A value compiles only where there is room for all its levels, and the pattern has just
these levels. -/
theorem nesting_of_compileWithin {v : Value} {p : Pattern}
    (h : compileWithin registry settings room v = .ok p) :
    p.nesting = v.nesting registry settings ∧ v.nesting registry settings < room := by
  induction room generalizing v p with
  | zero => cases h
  | succ room ih =>
      cases hv : v.string? with
      | none =>
          rw [compileWithin_of_not_string hv] at h
          exact nesting_of_compileParts (fun _ _ => ih) hv h
      | some text =>
          cases v with
          | string text =>
              obtain ⟨reading, hread, h⟩ := bind_eq_ok_iff.1 h
              cases reading with
              | leaf l =>
                  cases h
                  rw [Value.nesting_of_leaf hread]
                  exact ⟨rfl, Nat.succ_pos _⟩
              | document v =>
                  have hcontainer :=
                    Value.isContainer_of_readDocument (readDocument_of_readText hread)
                  rw [Value.nesting_of_document hread]
                  exact nesting_of_compileParts (fun _ _ => ih)
                    (Value.string?_of_isContainer hcontainer) h
          | _ => cases hv

/-- The depth limit is named only for a value that there is no room for. -/
theorem le_nesting_of_compileWithin {v : Value}
    (h : compileWithin registry settings room v = .error (.depthLimit limit)) :
    room ≤ v.nesting registry settings := by
  induction room generalizing v with
  | zero => exact Nat.zero_le _
  | succ room ih =>
      cases hv : v.string? with
      | none =>
          rw [compileWithin_of_not_string hv] at h
          exact le_nesting_of_compileParts (fun _ => ih) h
      | some text =>
          cases v with
          | string text =>
              rcases bind_eq_error_iff.1 h with herror | ⟨reading, hread, h⟩
              · exact absurd herror (readText_ne_depthLimit _)
              · cases reading with
                | leaf l => cases h
                | document v =>
                    rw [Value.nesting_of_document hread]
                    exact le_nesting_of_compileParts (fun _ => ih) h
          | _ => cases hv

end Pattern

section Escaped

variable {registry : Registry} {settings : Settings}

/-- The texts of an escaped element do not count, so it is as deep as the element. -/
theorem Element.depth_escaped (e : Element) : e.escaped.depth = e.depth := by
  induction e using Element.induct with
  | step e ih =>
      apply eq_of_forall_ge_iff
      intro n
      rw [depth_le_iff, depth_le_iff, childElements_escaped, List.forall_mem_map]
      apply forall₂_congr
      intro child hchild
      rw [ih child hchild]

/-- No text of an escaped value means a document. -/
theorem Value.nesting_escaped (v : Value) : v.escaped.nesting registry settings = v.depth := by
  induction v using Value.induct with
  | leaf v hv =>
      cases v with
      | string s => exact nesting_of_leaf (Pattern.readText_escapeText s)
      | sequence items => cases hv
      | mapping entries => cases hv
      | element e => cases hv
      | _ => simp [escaped, nesting, depth]
  | sequence items ih =>
      apply eq_of_forall_ge_iff
      intro n
      rw [escaped, nesting, depth, nestingOfItems_le_iff, depthOfItems_le_iff,
        escapedItems_eq_map, List.forall_mem_map]
      apply forall₂_congr
      intro v hv
      rw [ih v hv]
  | mapping entries ih =>
      apply eq_of_forall_ge_iff
      intro n
      rw [escaped, nesting, depth, nestingOfEntries_le_iff, depthOfEntries_le_iff,
        escapedEntries_eq_mapValues, Fields.mapValues, List.forall_mem_map]
      apply forall₂_congr
      intro entry hentry
      rw [ih entry hentry]
  | element e =>
      rw [escaped, nesting, depth]
      exact e.depth_escaped

/-- An escaped value compiles if and only if it is not nested too deeply, and then to its
literal pattern. -/
theorem Pattern.compile_escaped_iff {v : Value} {p : Pattern} :
    compile registry settings v.escaped = .ok p ↔
      v.depth ≤ settings.maxDepth ∧ p = v.literally := by
  constructor
  · intro h
    have hlt := (nesting_of_compileWithin h).2
    rw [Value.nesting_escaped, Nat.lt_succ_iff] at hlt
    rw [compile_escaped hlt] at h
    cases h
    exact ⟨hlt, rfl⟩
  · rintro ⟨hdepth, rfl⟩
    exact compile_escaped hdepth

end Escaped

/-- The depth limit is exact.  A value that is nested more deeply does not compile, one that is
not never fails for its depth, and what it compiles to has just as many levels. -/
theorem depth_limit_exact (m : Matcher) (v : Value) :
    (m.settings.maxDepth < v.nesting m.registry m.settings → ∃ e, m.compile v = .error e) ∧
      (v.nesting m.registry m.settings ≤ m.settings.maxDepth →
        ∀ limit, m.compile v ≠ .error (.depthLimit limit)) ∧
      ∀ p, m.compile v = .ok p → p.nesting = v.nesting m.registry m.settings := by
  refine ⟨?_, ?_, ?_⟩
  · intro hdeep
    cases hcompile : m.compile v with
    | error e => exact ⟨e, rfl⟩
    | ok p =>
        have hlt := (Pattern.nesting_of_compileWithin hcompile).2
        omega
  · intro hfits limit hlimit
    have hle := Pattern.le_nesting_of_compileWithin hlimit
    omega
  · intro p hp
    exact (Pattern.nesting_of_compileWithin hp).1

/-- With one level allowed, a sequence may hold a text that means an empty sequence, but not a
text that means a sequence with an item. -/
theorem levels_of_texts_count :
    let m : Matcher := ⟨.builtin, ⟨1, false, true⟩⟩
    let fitting := Value.sequence [.string "[]"]
    let deep := Value.sequence [.string "[[]]"]
    (fitting.nesting m.registry m.settings = 1 ∧ (∃ p, m.compile fitting = .ok p ∧ p.nesting = 1) ∧
        ∀ limit, m.compile fitting ≠ .error (.depthLimit limit)) ∧
      deep.nesting m.registry m.settings = 2 ∧ ∃ e, m.compile deep = .error e := by
  intro m fitting deep
  have hempty : Pattern.readText m.registry m.settings "[]" = .ok (.document (.sequence [])) :=
    Pattern.readText_of_readDocument rfl rfl
  have hitem : Pattern.readText m.registry m.settings "[[]]" =
      .ok (.document (.sequence [.sequence []])) :=
    Pattern.readText_of_readDocument rfl rfl
  have hfitting : fitting.nesting m.registry m.settings = 1 := by
    rw [Value.nesting, Value.nestingOfItems, Value.nesting_of_document hempty]
    simp [Value.nesting, Value.nestingOfItems]
  have hdeep : deep.nesting m.registry m.settings = 2 := by
    rw [Value.nesting, Value.nestingOfItems, Value.nesting_of_document hitem]
    simp [Value.nesting, Value.nestingOfItems]
  obtain ⟨-, hlimit, hnesting⟩ := depth_limit_exact m fitting
  have hcompile : m.compile fitting = .ok (.sequence [.sequence []]) := rfl
  refine ⟨⟨hfitting, ⟨_, hcompile, ?_⟩, hlimit (Nat.le_of_eq hfitting)⟩, hdeep, ?_⟩
  · rw [hnesting _ hcompile, hfitting]
  · apply (depth_limit_exact m deep).1
    rw [hdeep]
    decide

end DocMatch
