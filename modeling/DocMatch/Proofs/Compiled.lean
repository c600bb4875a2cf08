import DocMatch.Comparison.Matcher
import Mathlib.Data.List.Forall2
/-!
Patterns and how they come about: induction over patterns, and what a successful
compilation says about the parts of the expected value.
-/

namespace DocMatch

/-- Induction over element patterns: what holds of all children holds of the branch. -/
theorem ElementPattern.induct {motive : ElementPattern → Prop}
    (leaf : ∀ name attributes text, motive (.leaf name attributes text))
    (branch : ∀ name attributes children, (∀ child ∈ children, motive child) →
      motive (.branch name attributes children)) : ∀ e, motive e
  | .leaf name attributes text => leaf name attributes text
  | .branch name attributes children =>
      branch name attributes children fun child _ => induct leaf branch child

/-- Induction over patterns: what holds of all parts holds of the whole. -/
theorem Pattern.induct {motive : Pattern → Prop} (leaf : ∀ l, motive (.leaf l))
    (sequence : ∀ items, (∀ p ∈ items, motive p) → motive (.sequence items))
    (mapping : ∀ entries, (∀ entry ∈ entries, motive entry.2) → motive (.mapping entries))
    (element : ∀ e, motive (.element e)) : ∀ p, motive p
  | .leaf l => leaf l
  | .sequence items => sequence items fun p _ => induct leaf sequence mapping element p
  | .mapping entries =>
      mapping entries fun (key, p) hentry =>
        have : sizeOf p < sizeOf entries := by
          have hlt := List.sizeOf_lt_of_mem hentry
          simp only [Prod.mk.sizeOf_spec] at hlt
          omega
        induct leaf sequence mapping element p
  | .element e => element e

theorem ElementPattern.toChildren_eq_map (children : List ElementPattern) :
    toChildren children = children.map fun child => .element child.toElement := by
  induction children with
  | nil => rfl
  | cons child rest ih => rw [toChildren, ih, List.map_cons]

theorem Pattern.toItems_eq_map (items : List Pattern) : toItems items = items.map toValue := by
  induction items with
  | nil => rfl
  | cons p rest ih => rw [toItems, ih, List.map_cons]

theorem Pattern.toEntries_eq_mapValues (entries : Fields Pattern) :
    toEntries entries = Fields.mapValues toValue entries := by
  induction entries with
  | nil => rfl
  | cons entry rest ih => rw [toEntries, ih, Fields.mapValues, Fields.mapValues, List.map_cons]

/-- A sequence of two computations succeeds if both do. -/
theorem bind_eq_ok_iff {σ α β : Type} {x : Except σ α} {f : α → Except σ β} {b : β} :
    x >>= f = .ok b ↔ ∃ a, x = .ok a ∧ f a = .ok b := by
  cases x with
  | error e => simp [bind, Except.bind]
  | ok a => simp [bind, Except.bind]

/-- A sequence of two computations fails if the first does, or the second after it. -/
theorem bind_eq_error_iff {σ α β : Type} {x : Except σ α} {f : α → Except σ β} {e : σ} :
    x >>= f = .error e ↔ x = .error e ∨ ∃ a, x = .ok a ∧ f a = .error e := by
  cases x with
  | error e => simp [bind, Except.bind]
  | ok a => simp [bind, Except.bind]

theorem map_eq_ok_iff {σ α β : Type} {x : Except σ α} {f : α → β} {b : β} :
    x.map f = .ok b ↔ ∃ a, x = .ok a ∧ f a = b := by
  cases x <;> simp [Except.map]

theorem map_eq_error_iff {σ α β : Type} {x : Except σ α} {f : α → β} {e : σ} :
    x.map f = .error e ↔ x = .error e := by
  cases x <;> simp [Except.map]

namespace Pattern

section Parts

variable {α β : Type} {f : α → Except MatchError β}

theorem compileList_eq_ok_iff {values : List α} {results : List β} :
    compileList f values = .ok results ↔
      List.Forall₂ (fun v r => f v = .ok r) values results := by
  induction values generalizing results with
  | nil => cases results <;> simp [compileList]
  | cons v rest ih =>
      simp only [compileList, bind_eq_ok_iff, ih]
      constructor
      · rintro ⟨r, hr, rs, hrs, hresults⟩
        cases hresults
        exact .cons hr hrs
      · rintro (_ | ⟨hr, hrs⟩)
        exact ⟨_, hr, _, hrs, rfl⟩

theorem compileFields_eq_ok_iff {fields : Fields α} {results : Fields β} :
    compileFields f fields = .ok results ↔
      List.Forall₂ (fun v r => v.1 = r.1 ∧ f v.2 = .ok r.2) fields results := by
  induction fields generalizing results with
  | nil => cases results <;> simp [compileFields]
  | cons entry rest ih =>
      obtain ⟨key, v⟩ := entry
      simp only [compileFields, bind_eq_ok_iff, ih]
      constructor
      · rintro ⟨r, hr, rs, hrs, hresults⟩
        cases hresults
        exact .cons ⟨rfl, hr⟩ hrs
      · rintro (_ | ⟨⟨hkey, hr⟩, hrs⟩)
        rename_i result results
        obtain ⟨key', r⟩ := result
        obtain rfl : key = key' := hkey
        exact ⟨r, hr, _, hrs, rfl⟩

/-- Values fail to compile as a list only with the error of one of them. -/
theorem exists_of_compileList_error {values : List α} {e : MatchError}
    (h : compileList f values = .error e) : ∃ v ∈ values, f v = .error e := by
  induction values with
  | nil => cases h
  | cons v rest ih =>
      rw [List.exists_mem_cons_iff]
      rcases bind_eq_error_iff.1 h with hv | ⟨_, -, hrest⟩
      · exact .inl hv
      · rcases bind_eq_error_iff.1 hrest with hrest | ⟨_, -, hok⟩
        · exact .inr (ih hrest)
        · cases hok

/-- Fields fail to compile only with the error of one of their values. -/
theorem exists_of_compileFields_error {fields : Fields α} {e : MatchError}
    (h : compileFields f fields = .error e) : ∃ entry ∈ fields, f entry.2 = .error e := by
  induction fields with
  | nil => cases h
  | cons entry rest ih =>
      rw [List.exists_mem_cons_iff]
      rcases bind_eq_error_iff.1 h with hv | ⟨_, -, hrest⟩
      · exact .inl hv
      · rcases bind_eq_error_iff.1 hrest with hrest | ⟨_, -, hok⟩
        · exact .inr (ih hrest)
        · cases hok

end Parts

variable {registry : Registry} {settings : Settings} {limit room : Nat}

/-- An element with child elements compiles to a branch over all of them. -/
theorem compileElement_branch_iff {e : Element} (hleaf : e.isLeaf = false) {p : ElementPattern} :
    compileElement registry limit (room + 1) e = .ok p ↔
      ∃ attributes children,
        compileFields (readLeaf registry) e.attributes = .ok attributes ∧
        compileList (compileElement registry limit room) e.childElements = .ok children ∧
        p = .branch e.name attributes children := by
  rw [compileElement, bind_eq_ok_iff]
  simp only [hleaf, Bool.false_eq_true, if_false, bind_eq_ok_iff]
  constructor
  · rintro ⟨attributes, hattributes, children, hchildren, hp⟩
    cases hp
    exact ⟨attributes, children, hattributes, hchildren, rfl⟩
  · rintro ⟨attributes, children, hattributes, hchildren, rfl⟩
    exact ⟨attributes, hattributes, children, hchildren, rfl⟩

/-- An element without child elements compiles to a leaf over its text. -/
theorem compileElement_leaf_iff {e : Element} (hleaf : e.isLeaf = true) {p : ElementPattern} :
    compileElement registry limit (room + 1) e = .ok p ↔
      ∃ attributes text,
        compileFields (readLeaf registry) e.attributes = .ok attributes ∧
        (match e.text? with
          | some s => readLeaf registry s
          | none => .ok (.literal .null)) = .ok text ∧
        p = .leaf e.name attributes text := by
  rw [compileElement, bind_eq_ok_iff]
  simp only [hleaf, if_true]
  constructor
  · rintro ⟨attributes, hattributes, hp⟩
    cases htext : e.text? with
    | none =>
        simp only [htext] at hp
        cases hp
        exact ⟨attributes, _, hattributes, rfl, rfl⟩
    | some s =>
        simp only [htext, bind_eq_ok_iff] at hp
        obtain ⟨text, hread, hp⟩ := hp
        cases hp
        exact ⟨attributes, text, hattributes, hread, rfl⟩
  · rintro ⟨attributes, text, hattributes, hread, rfl⟩
    refine ⟨attributes, hattributes, ?_⟩
    cases htext : e.text? with
    | none =>
        simp only [htext] at hread ⊢
        cases hread
        rfl
    | some s =>
        simp only [htext] at hread ⊢
        rw [hread]
        rfl

theorem compileWithin_of_not_string {v : Value} (hv : v.string? = none) :
    compileWithin registry settings (room + 1) v =
      compileParts (compileWithin registry settings room)
        (compileElement registry settings.maxDepth (room + 1)) v := by
  cases v with
  | string s => cases hv
  | _ => rfl

/-- The parts of a value compile to a branch only if it has child elements. -/
theorem branch_ne_nil_of_compileParts {inner : Value → Except MatchError Pattern} {v : Value}
    {name : String} {attributes : Fields Leaf} {children : List ElementPattern}
    (h : compileParts inner (compileElement registry limit (room + 1)) v =
      .ok (.element (.branch name attributes children))) : children ≠ [] := by
  cases v with
  | element e =>
      simp only [compileParts, map_eq_ok_iff, Pattern.element.injEq, exists_eq_right] at h
      cases hleaf : e.isLeaf with
      | true =>
          obtain ⟨_, _, _, _, hp⟩ := (compileElement_leaf_iff hleaf).1 h
          cases hp
      | false =>
          obtain ⟨_, _, _, hchildren, hp⟩ := (compileElement_branch_iff hleaf).1 h
          cases hp
          rintro rfl
          rw [compileList_eq_ok_iff, List.forall₂_nil_right_iff] at hchildren
          simp [Element.isLeaf, hchildren] at hleaf
  | sequence items => simp [compileParts, map_eq_ok_iff] at h
  | mapping entries => simp [compileParts, map_eq_ok_iff] at h
  | _ => cases h

/-- What compiles to a pattern with child elements has at least one of them. -/
theorem branch_ne_nil_of_compile {expected : Value} {name : String} {attributes : Fields Leaf}
    {children : List ElementPattern}
    (h : compile registry settings expected = .ok (.element (.branch name attributes children))) :
    children ≠ [] := by
  rw [compile] at h
  cases expected with
  | string text =>
      simp only [compileWithin, bind_eq_ok_iff] at h
      obtain ⟨reading, -, h⟩ := h
      cases reading with
      | leaf l => cases h
      | document v => exact branch_ne_nil_of_compileParts h
  | _ =>
      rw [compileWithin_of_not_string rfl] at h
      exact branch_ne_nil_of_compileParts h

end Pattern

namespace Matcher

variable {m : Matcher} {expected : Value} {p : Pattern}

/-- A comparison with an expected value is one with the pattern it compiles to. -/
theorem compare_of_compile (hp : m.compile expected = .ok p) (actual : Value) (mode : Mode) :
    m.compare actual expected mode = .ok (m.compareWith actual p mode) := by
  rw [compare, hp]
  rfl

theorem compareEach_of_compile (hp : m.compile expected = .ok p) (actual : Value) (mode : Mode) :
    m.compareEach actual expected mode = .ok (m.compareEachWith actual p mode) := by
  rw [compareEach, hp]
  rfl

end Matcher

end DocMatch
