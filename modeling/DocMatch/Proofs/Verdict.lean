import DocMatch.Comparison.Matcher
import DocMatch.Proofs.Embedding
import DocMatch.Proofs.Fields
import DocMatch.Proofs.Walk
/-!
When a value fits a pattern.  Each kind of pattern fits under a condition on its
parts, mode by mode, so that nothing else has to look into the lists of failures.
-/

namespace DocMatch

namespace Fields

variable {α ε : Type}

/-- Whether an expected entry fits the value under its key, or may be missing. -/
def EntryFits (mayLack : ε → Prop) (fits : ε → α → Prop) (actual : Fields α)
    (entry : String × ε) : Prop :=
  match get? entry.1 actual with
  | none => mayLack entry.2
  | some v => fits entry.2 v

/-- Whether every expected entry fits. -/
def EachFits (mayLack : ε → Prop) (fits : ε → α → Prop) (expected : Fields ε)
    (actual : Fields α) : Prop :=
  ∀ entry ∈ expected, EntryFits mayLack fits actual entry

theorem EntryFits.mono {mayLack : ε → Prop} {fits fits' : ε → α → Prop} {actual : Fields α}
    {entry : String × ε} (h : EntryFits mayLack fits actual entry)
    (himp : ∀ v, fits entry.2 v → fits' entry.2 v) : EntryFits mayLack fits' actual entry := by
  unfold EntryFits at h ⊢
  split
  · rename_i hget
    rwa [hget] at h
  · rename_i v hget
    rw [hget] at h
    exact himp v h

theorem EachFits.mono {mayLack : ε → Prop} {fits fits' : ε → α → Prop} {expected : Fields ε}
    {actual : Fields α} (h : EachFits mayLack fits expected actual)
    (himp : ∀ entry ∈ expected, ∀ v, fits entry.2 v → fits' entry.2 v) :
    EachFits mayLack fits' expected actual :=
  fun entry hentry => (h entry hentry).mono (himp entry hentry)

theorem eachFits_cons {mayLack : ε → Prop} {fits : ε → α → Prop} {entry : String × ε}
    {rest : Fields ε} {actual : Fields α} :
    EachFits mayLack fits (entry :: rest) actual ↔
      EntryFits mayLack fits actual entry ∧ EachFits mayLack fits rest actual :=
  List.forall_mem_cons

end Fields

/-- The values in which a leaf finds nothing wrong. -/
def Leaf.Fits (mode : Mode) (l : Leaf) (v : Value) : Prop :=
  l.failures mode v = []

/-- The elements in which a pattern finds nothing wrong. -/
def ElementPattern.Fits (mode : Mode) (e : ElementPattern) (actual : Element) : Prop :=
  e.failures mode actual = []

/-- The values in which a pattern finds nothing wrong. -/
def Pattern.Fits (settings : Settings) (mode : Mode) (p : Pattern) (v : Value) : Prop :=
  p.failures settings mode v = []

theorem Value.kind_eq_of_sameAs {v w : Value} (h : v.sameAs w = true) : v.kind = w.kind := by
  cases v <;> cases w <;> simp_all [Value.sameAs, Value.kind]

namespace Leaf

variable {mode : Mode} {expected v : Value}

/-- Whether a text is found inside another one. -/
def IsPartOf (expected v : Value) : Prop :=
  ∃ e s, expected = .string e ∧ v = .string s ∧ e.toList <:+: s.toList

theorem literalMismatch_eq_none_iff :
    literalMismatch mode expected v = none ↔
      v.sameAs expected = true ∨ mode.isContainment = true ∧ IsPartOf expected v := by
  unfold literalMismatch
  split
  · rename_i s e
    have hpart : IsPartOf (.string e) (.string s) ↔ e.toList <:+: s.toList := by
      simp [IsPartOf]
    rw [hpart, ← Text.occursIn_iff]
    by_cases hcontainment : mode.isContainment = true
    · by_cases hsame : s = e
      · have hoccurs : Text.occursIn e.toList e.toList = true :=
          Text.occursIn_iff.2 (List.infix_refl _)
        simp [hsame, hoccurs, hcontainment]
      · simp [Value.sameAs, hcontainment, hsame]
    · simp [Value.sameAs, hcontainment]
  · rename_i hnot
    have hpart : ¬ IsPartOf expected v := by
      rintro ⟨e, s, he, hs, -⟩
      exact hnot s e hs he
    simp [hpart]

/-- A literal is fitted by an equal value, and a text in the modes of containment by
every text around it. -/
theorem fits_literal_iff :
    (Leaf.literal expected).Fits mode v ↔
      v.sameAs expected = true ∨ mode.isContainment = true ∧ IsPartOf expected v := by
  rw [← literalMismatch_eq_none_iff, Fits, failures]
  by_cases hkind : v.kind = expected.kind
  · simp [hkind]
  · have hmismatch : literalMismatch mode expected v ≠ none := by
      rw [ne_eq, literalMismatch_eq_none_iff]
      rintro (hsame | ⟨-, e, s, rfl, rfl, -⟩)
      · exact hkind (Value.kind_eq_of_sameAs hsame)
      · exact hkind rfl
    simp [hkind, hmismatch]

/-- A leaf that is fitted in the mode of equality is fitted in every mode. -/
theorem Fits.of_equals {l : Leaf} (h : l.Fits .equals v) : l.Fits mode v := by
  cases l with
  | marker m => exact h
  | literal expected =>
      rw [fits_literal_iff] at h ⊢
      rcases h with hsame | ⟨hcontainment, -⟩
      · exact Or.inl hsame
      · cases hcontainment

theorem fits_congr {other : Mode} (h : mode.isContainment = other.isContainment) {l : Leaf} :
    l.Fits mode v ↔ l.Fits other v := by
  cases l with
  | marker m => exact Iff.rfl
  | literal expected => rw [fits_literal_iff, fits_literal_iff, h]

end Leaf

theorem Mode.child_of_ne {mode : Mode} (h : mode ≠ .containsAny) : mode.child = mode := by
  cases mode with
  | containsAny => exact absurd rfl h
  | _ => rfl

namespace ElementPattern

/-- Whether the name and the attributes of an element fit. -/
structure TagFits (mode : Mode) (e : ElementPattern) (actual : Element) : Prop where
  name_eq : actual.name = e.name
  within : mode.isExact = true → Fields.KeysWithin actual.attributes e.attributes
  attributes : Fields.EachFits (·.allowsAbsent = true) (fun l s => l.Fits .equals (.string s))
    e.attributes actual.attributes

variable {mode : Mode} {name : String} {attributes : Fields Leaf} {actual : Element}

theorem attributeFailures_eq_nil {expected : Fields Leaf} {actual : Fields String} :
    attributeFailures expected actual = [] ↔
      Fields.EachFits (·.allowsAbsent = true) (fun l s => l.Fits .equals (.string s))
        expected actual := by
  rw [attributeFailures, List.flatMap_eq_nil_iff]
  apply forall₂_congr
  intro entry _
  obtain ⟨name, l⟩ := entry
  cases hget : Fields.get? name actual <;>
    simp [Fields.EntryFits, hget, Leaf.absentFailures, Leaf.Fits]

theorem tagFailures_eq_nil {e : ElementPattern} :
    actual.name = e.name ∧ e.tagFailures mode actual = [] ↔ e.TagFits mode actual := by
  have hextra : extraAttributes e.attributes actual.attributes = [] ↔
      Fields.KeysWithin actual.attributes e.attributes := by
    rw [extraAttributes, List.map_eq_nil_iff, Fields.filter_not_contains_eq_nil]
  rw [tagFailures, List.append_eq_nil_iff, attributeFailures_eq_nil]
  by_cases hexact : mode.isExact = true
  · constructor
    · rintro ⟨hname, hattributes, hrest⟩
      refine ⟨hname, fun _ => hextra.1 ?_, hrest⟩
      simpa [hexact] using hattributes
    · rintro ⟨hname, hwithin, hrest⟩
      exact ⟨hname, by simp [hexact, hextra.2 (hwithin hexact)], hrest⟩
  · constructor
    · rintro ⟨hname, -, hrest⟩
      exact ⟨hname, fun h => absurd h hexact, hrest⟩
    · rintro ⟨hname, -, hrest⟩
      exact ⟨hname, by simp [hexact], hrest⟩

theorem fits_eq_verdictRows (children : List ElementPattern) (items : List Element) :
    fits mode children items =
      verdictRows (fun child item => (child.failures mode item).isEmpty) children items := by
  induction children with
  | nil => simp [fits, verdictRows]
  | cons child rest ih => simpa [fits, verdictRows] using ih

theorem pairedFailures_eq_nil {children : List ElementPattern} {items : List Element}
    {places : List Path} (hitems : items.length = children.length)
    (hplaces : places.length = children.length) :
    pairedFailures children items places = [] ↔
      List.Forall₂ (fun child item => child.Fits .equals item) children items := by
  induction children generalizing items places with
  | nil =>
      obtain rfl := List.length_eq_zero_iff.1 hitems
      simp [pairedFailures]
  | cons child rest ih =>
      cases items with
      | nil => cases hitems
      | cons item items =>
          cases places with
          | nil => cases hplaces
          | cons place places =>
              rw [pairedFailures, List.append_eq_nil_iff, List.map_eq_nil_iff,
                ih (Nat.succ.inj hitems) (Nat.succ.inj hplaces), List.forall₂_cons, Fits]

/-- The failures of an element with the right name are those of its tag and those
of its content. -/
theorem fits_iff_of_failures {e : ElementPattern} {content : List Failure}
    (hfailures : e.failures mode actual =
      if actual.name ≠ e.name then [e.wholeFailure actual (.elementName e.name actual.name)]
      else e.tagFailures mode actual ++ content) :
    e.Fits mode actual ↔ e.TagFits mode actual ∧ content = [] := by
  rw [Fits, hfailures, ← tagFailures_eq_nil]
  by_cases hname : actual.name = e.name <;> simp [hname]

theorem fits_leaf_iff {text : Leaf} :
    (ElementPattern.leaf name attributes text).Fits mode actual ↔
      (ElementPattern.leaf name attributes text).TagFits mode actual ∧
        text.Fits .equals (textValue actual) := by
  apply fits_iff_of_failures
  rw [failures]

theorem fits_branch_equals_iff {children : List ElementPattern} :
    (ElementPattern.branch name attributes children).Fits .equals actual ↔
      (ElementPattern.branch name attributes children).TagFits .equals actual ∧
        List.Forall₂ (fun child item => child.Fits .equals item) children actual.childElements := by
  rw [fits_iff_of_failures (by rw [failures])]
  apply and_congr_right
  intro _
  by_cases hlength : actual.childElements.length = children.length
  · have hplaces := length_childPaths [] actual.childElements
    simp [hlength, pairedFailures_eq_nil hlength (hplaces.trans hlength)]
  · simp only [if_true, ne_eq, hlength, not_false_eq_true, List.cons_ne_nil, false_iff]
    exact fun hfits => hlength hfits.length_eq.symm

theorem fits_branch_iff_mismatches (hmode : mode ≠ .equals) {children : List ElementPattern} :
    (ElementPattern.branch name attributes children).Fits mode actual ↔
      (ElementPattern.branch name attributes children).TagFits mode actual ∧
        containmentMismatches mode (fun child => child.toElement.markup) children
          actual.childElements.length
          (verdictRows (fun child item => (child.failures mode.child item).isEmpty) children
            actual.childElements) = [] := by
  rw [fits_iff_of_failures (by rw [failures])]
  simp only [if_neg hmode, List.map_eq_nil_iff, fits_eq_verdictRows]

theorem fits_branch_iff (hequals : mode ≠ .equals) (hany : mode ≠ .containsAny)
    {children : List ElementPattern} :
    (ElementPattern.branch name attributes children).Fits mode actual ↔
      (ElementPattern.branch name attributes children).TagFits mode actual ∧
        (mode = .containsOnly → children.length = actual.childElements.length) ∧
        Assignment.Embeds (fun child item => child.Fits mode item) children
          actual.childElements := by
  rw [fits_branch_iff_mismatches hequals, containmentMismatches_eq_nil_iff hany]
  simp [Mode.child_of_ne hany, Fits]

theorem fits_branch_any_iff {children : List ElementPattern} :
    (ElementPattern.branch name attributes children).Fits .containsAny actual ↔
      (ElementPattern.branch name attributes children).TagFits .containsAny actual ∧
        ∃ child ∈ children, ∃ item ∈ actual.childElements, child.Fits .contains item := by
  rw [fits_branch_iff_mismatches (by simp), containmentMismatches_any rfl]
  simp [Fits, Mode.child]

end ElementPattern

namespace Pattern

variable {settings : Settings} {mode : Mode} {v : Value}

theorem fits_eq_verdictRows (expected : List Pattern) (items : List Value) :
    fits settings mode expected items =
      verdictRows (fun p item => (p.failures settings (mode.inner item p) item).isEmpty)
        expected items := by
  induction expected with
  | nil => simp [fits, verdictRows]
  | cons p rest ih => simpa [fits, verdictRows] using ih

theorem pairedFailures_eq_nil {expected : List Pattern} {items : List Value} {i : Nat}
    (hlength : items.length = expected.length) :
    pairedFailures settings i expected items = [] ↔
      List.Forall₂ (fun p item => p.Fits settings .equals item) expected items := by
  induction expected generalizing items i with
  | nil =>
      obtain rfl := List.length_eq_zero_iff.1 hlength
      simp [pairedFailures]
  | cons p rest ih =>
      cases items with
      | nil => cases hlength
      | cons item items =>
          rw [pairedFailures, List.append_eq_nil_iff, List.map_eq_nil_iff,
            ih (Nat.succ.inj hlength), List.forall₂_cons, Fits]

theorem entryFailures_eq_nil {expected : Fields Pattern} {entries : Fields Value} :
    entryFailures settings mode expected entries = [] ↔
      Fields.EachFits (·.allowsAbsent = true) (fun p v => p.Fits settings (mode.inner v p) v)
        expected entries := by
  induction expected with
  | nil => simp [entryFailures, Fields.EachFits]
  | cons entry rest ih =>
      obtain ⟨key, p⟩ := entry
      rw [entryFailures, List.append_eq_nil_iff, ih, Fields.eachFits_cons]
      apply and_congr_left
      intro _
      cases hget : Fields.get? key entries <;> simp [Fields.EntryFits, hget, absentFailures, Fits]

theorem anyEntryFits_iff {expected : Fields Pattern} {entries : Fields Value} :
    anyEntryFits settings expected entries = true ↔
      ∃ entry ∈ expected, Fields.EntryFits (·.allowsAbsent = true)
        (fun p v => p.Fits settings .equals v) entries entry := by
  induction expected with
  | nil => simp [anyEntryFits]
  | cons entry rest ih =>
      obtain ⟨key, p⟩ := entry
      rw [anyEntryFits, Bool.or_eq_true, ih, List.exists_mem_cons_iff]
      refine or_congr_left ?_
      cases hget : Fields.get? key entries <;> simp [Fields.EntryFits, hget, Fits]

@[simp] theorem fits_leaf {l : Leaf} : (Pattern.leaf l).Fits settings mode v ↔ l.Fits mode v := by
  rw [Fits, failures, Leaf.Fits]

theorem fits_element_iff {e : ElementPattern} :
    (Pattern.element e).Fits settings mode v ↔
      ∃ actual, v.unfolded settings = .element actual ∧ e.Fits mode actual := by
  rw [Fits, failures]
  cases h : v.unfolded settings <;> simp [ElementPattern.Fits]

theorem fits_sequence_equals_iff {expected : List Pattern} :
    (Pattern.sequence expected).Fits settings .equals v ↔
      ∃ items, v.unfolded settings = .sequence items ∧
        List.Forall₂ (fun p item => p.Fits settings .equals item) expected items := by
  rw [Fits, failures]
  cases h : v.unfolded settings with
  | sequence items =>
      by_cases hlength : items.length = expected.length
      · simp [hlength, pairedFailures_eq_nil hlength]
      · simp only [if_true, ne_eq, hlength, not_false_eq_true, List.cons_ne_nil, false_iff]
        rintro ⟨others, hsame, hfits⟩
        cases hsame
        exact hlength hfits.length_eq.symm
  | _ => simp

theorem fits_sequence_iff_mismatches (hmode : mode ≠ .equals) {expected : List Pattern} :
    (Pattern.sequence expected).Fits settings mode v ↔
      ∃ items, v.unfolded settings = .sequence items ∧
        containmentMismatches mode (fun item => item.toValue.text) expected items.length
          (verdictRows (fun p item => (p.failures settings (mode.inner item p) item).isEmpty)
            expected items) = [] := by
  rw [Fits, failures]
  cases h : v.unfolded settings with
  | sequence items => simp [hmode, fits_eq_verdictRows]
  | _ => simp

theorem fits_sequence_iff (hequals : mode ≠ .equals) (hany : mode ≠ .containsAny)
    {expected : List Pattern} :
    (Pattern.sequence expected).Fits settings mode v ↔
      ∃ items, v.unfolded settings = .sequence items ∧
        (mode = .containsOnly → expected.length = items.length) ∧
        Assignment.Embeds (fun p item => p.Fits settings (mode.inner item p) item)
          expected items := by
  rw [fits_sequence_iff_mismatches hequals]
  simp only [containmentMismatches_eq_nil_iff hany, List.isEmpty_iff, Fits]

theorem fits_sequence_any_iff {expected : List Pattern} :
    (Pattern.sequence expected).Fits settings .containsAny v ↔
      ∃ items, v.unfolded settings = .sequence items ∧
        ∃ p ∈ expected, ∃ item ∈ items, p.Fits settings .equals item := by
  rw [fits_sequence_iff_mismatches (by simp)]
  simp [containmentMismatches_any, Fits, Mode.inner]

theorem fits_mapping_iff (hany : mode ≠ .containsAny) {expected : Fields Pattern} :
    (Pattern.mapping expected).Fits settings mode v ↔
      ∃ entries, v.unfolded settings = .mapping entries ∧
        (mode.isExact = true → Fields.KeysWithin entries expected) ∧
        Fields.EachFits (·.allowsAbsent = true) (fun p v => p.Fits settings (mode.inner v p) v)
          expected entries := by
  rw [Fits, failures]
  cases h : v.unfolded settings with
  | mapping entries =>
      simp only [if_neg hany, List.append_eq_nil_iff, entryFailures_eq_nil, Value.mapping.injEq,
        exists_eq_left']
      apply and_congr_left
      intro _
      have hextra : extraEntries expected entries = [] ↔ Fields.KeysWithin entries expected :=
        Fields.filter_not_contains_eq_nil
      by_cases hexact : mode.isExact = true <;> simp [hexact, hextra]
  | _ => simp

theorem fits_mapping_equals_iff {expected : Fields Pattern} :
    (Pattern.mapping expected).Fits settings .equals v ↔
      ∃ entries, v.unfolded settings = .mapping entries ∧
        Fields.KeysWithin entries expected ∧
        Fields.EachFits (·.allowsAbsent = true) (fun p v => p.Fits settings .equals v)
          expected entries := by
  rw [fits_mapping_iff (by simp)]
  simp [Mode.isExact, Mode.inner]

theorem fits_mapping_any_iff {expected : Fields Pattern} :
    (Pattern.mapping expected).Fits settings .containsAny v ↔
      ∃ entries, v.unfolded settings = .mapping entries ∧
        ∃ entry ∈ expected, Fields.EntryFits (·.allowsAbsent = true)
          (fun p v => p.Fits settings .equals v) entries entry := by
  rw [Fits, failures]
  cases h : v.unfolded settings with
  | mapping entries => simp [anyEntryFits_iff, Mode.isExact]
  | _ => simp

end Pattern

namespace Matcher

variable {m : Matcher} {p : Pattern} {v : Value}

/-- Whether a comparison of a value with a pattern passes. -/
def Accepts (m : Matcher) (mode : Mode) (p : Pattern) (v : Value) : Prop :=
  (m.compareWith v p mode).passes = true

theorem failures_of_not_negated {mode : Mode} (h : mode.isNegated = false) :
    m.failures mode p v = p.failures m.settings mode v := by
  have hpositive : mode.positive = mode := by
    cases mode <;> simp_all [Mode.isNegated, Mode.positive]
  simp [failures_eq_judge, judge, h, hpositive]

theorem accepts_iff_fits (mode : Mode) (h : mode.isNegated = false) :
    m.Accepts mode p v ↔ p.Fits m.settings mode v := by
  rw [Accepts, compareWith, Comparison.passes, List.isEmpty_iff, failures_of_not_negated h,
    Pattern.Fits]

end Matcher

end DocMatch
