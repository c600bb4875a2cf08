import DocMatch.Proofs.Verdict
/-!
Containment of sequences and of child elements.  A comparison that disregards order
passes if and only if the expected items have distinct places that fit, where a pair
of items is judged as if it were compared by itself; and if it does not pass although
the lengths would allow it, it reports as many missing items as have to be left out.
-/

namespace DocMatch

open Assignment

/-- How many failures say that an expected item finds no place of its own. -/
def Comparison.missingItems (c : Comparison) : Nat :=
  c.failures.countP fun f => f.mismatch.isMissingItem

/-- The outcome of a comparison tells whether the expected items have distinct places
that fit, and how many of them have to be left out if not. -/
structure Comparison.DecidesPlaces {ε α : Type} (c : Comparison) (fits : ε → α → Prop)
    (expected : List ε) (actual : List α) : Prop where
  passes_iff : c.passes = true ↔
    (c.mode = .containsOnly → expected.length = actual.length) ∧ Embeds fits expected actual
  missing : c.mode.AllowsLengths expected.length actual.length →
    ∃ size, IsGreatest (MatchingSizes (FitsAt fits expected actual)) size ∧
      c.missingItems + size = expected.length

variable {ε α : Type} {mode : Mode} {expected : List ε} {actual : List α}

theorem decidesPlaces_of_failures {verdict : ε → α → Bool} (describe : ε → String)
    (whole : Mismatch → Failure) {c : Comparison} (hany : c.mode ≠ .containsAny)
    (hwhole : ∀ mismatch, (whole mismatch).mismatch = mismatch)
    (hfailures : c.failures = (containmentMismatches c.mode describe expected actual.length
      (verdictRows verdict expected actual)).map whole) :
    c.DecidesPlaces (fun e a => verdict e a = true) expected actual where
  passes_iff := by
    rw [Comparison.passes, List.isEmpty_iff, hfailures, List.map_eq_nil_iff,
      containmentMismatches_eq_nil_iff hany]
  missing := by
    intro hlengths
    obtain ⟨size, hgreatest, hcount⟩ :=
      exists_isGreatest_missing verdict describe hany hlengths
    refine ⟨size, hgreatest, ?_⟩
    have hmissing : c.missingItems = (containmentMismatches c.mode describe expected actual.length
        (verdictRows verdict expected actual)).length := by
      rw [Comparison.missingItems, hfailures, List.countP_map, List.countP_eq_length]
      intro mismatch hmem
      rw [Function.comp_apply, hwhole]
      exact isMissingItem_of_mem hany hlengths hmem
    rw [hmissing, hcount]

theorem Comparison.DecidesPlaces.congr {c : Comparison} {fits fits' : ε → α → Prop}
    (h : c.DecidesPlaces fits expected actual) (hiff : ∀ e a, fits e a ↔ fits' e a) :
    c.DecidesPlaces fits' expected actual := by
  obtain rfl : fits = fits' := funext₂ fun e a => propext (hiff e a)
  exact h

/-- Two items of a sequence are judged like a comparison of their own, in the mode for
parts. -/
theorem sequence_decidesPlaces (m : Matcher) (hnegated : mode.isNegated = false)
    (hequals : mode ≠ .equals) (hany : mode ≠ .containsAny) (expected : List Pattern)
    (items : List Value) :
    (m.compareWith (.sequence items) (.sequence expected) mode).DecidesPlaces
      (fun p item => m.Accepts (mode.inner item p) p item) expected items := by
  have hdecides : (m.compareWith (.sequence items) (.sequence expected) mode).DecidesPlaces
      (fun p item => (p.failures m.settings (mode.inner item p) item).isEmpty = true)
      expected items := by
    refine decidesPlaces_of_failures (fun p => p.toValue.text)
      ((Pattern.sequence expected).wholeFailure (.sequence items)) hany (fun _ => rfl) ?_
    rw [Matcher.compareWith, Matcher.failures_of_not_negated hnegated, Pattern.failures]
    simp only [Value.unfolded, if_neg hequals, Pattern.fits_eq_verdictRows]
  apply hdecides.congr
  intro p item
  have hinner : (mode.inner item p).isNegated = false := by
    unfold Mode.inner
    split <;> rfl
  rw [Matcher.accepts_iff_fits _ hinner, Pattern.Fits, List.isEmpty_iff]

/-- Two child elements are judged like a comparison of their own in the mode of their
parents, if the name and the attributes of these fit. -/
theorem branch_decidesPlaces (m : Matcher) (hnegated : mode.isNegated = false)
    (hequals : mode ≠ .equals) (hany : mode ≠ .containsAny) {name : String}
    {attributes : Fields Leaf} {children : List ElementPattern} {actual : Element}
    (htag : (ElementPattern.branch name attributes children).TagFits mode actual) :
    (m.compareWith (.element actual) (.element (.branch name attributes children))
      mode).DecidesPlaces
      (fun child item => m.Accepts mode (.element child) (.element item)) children
      actual.childElements := by
  have hdecides : (m.compareWith (.element actual) (.element (.branch name attributes children))
      mode).DecidesPlaces (fun child item => (child.failures mode item).isEmpty = true) children
      actual.childElements := by
    refine decidesPlaces_of_failures (fun child => child.toElement.markup)
      ((ElementPattern.branch name attributes children).wholeFailure actual) hany (fun _ => rfl) ?_
    obtain ⟨hname, hattributes⟩ := ElementPattern.tagFailures_eq_nil.2 htag
    rw [Matcher.compareWith, Matcher.failures_of_not_negated hnegated, Pattern.failures]
    simp only [Value.unfolded, ElementPattern.failures, hname, ne_eq, not_true_eq_false, if_false,
      hattributes, List.nil_append, if_neg hequals, ElementPattern.fits_eq_verdictRows,
      Mode.child_of_ne hany]
  apply hdecides.congr
  intro child item
  rw [Matcher.accepts_iff_fits _ hnegated, Pattern.fits_element_iff, List.isEmpty_iff]
  simp [Value.unfolded, ElementPattern.Fits]

/-- Containment is the existence of distinct places.  The items of sequences are paired
by equality, or by deep containment where the mode is deep and either side is a
container; child elements keep the mode of their parents. -/
theorem containment_iff_distinct_places (m : Matcher) :
    (∀ (expected : List Pattern) (items : List Value),
      (m.compareWith (.sequence items) (.sequence expected) .contains).DecidesPlaces
        (m.Accepts .equals) expected items ∧
      (m.compareWith (.sequence items) (.sequence expected) .containsOnly).DecidesPlaces
        (m.Accepts .equals) expected items ∧
      (m.compareWith (.sequence items) (.sequence expected) .containsDeep).DecidesPlaces
        (fun p item =>
          m.Accepts (if item.isContainer || p.isContainer then .containsDeep else .equals) p item)
        expected items) ∧
    (∀ mode ∈ [Mode.contains, .containsOnly, .containsDeep],
      ∀ (name : String) (attributes : Fields Leaf) (children : List ElementPattern)
        (actual : Element),
        (ElementPattern.branch name attributes children).TagFits mode actual →
        (m.compareWith (.element actual) (.element (.branch name attributes children))
          mode).DecidesPlaces
          (fun child item => m.Accepts mode (.element child) (.element item)) children
          actual.childElements) := by
  constructor
  · intro expected items
    refine ⟨?_, ?_, ?_⟩
    · exact sequence_decidesPlaces m rfl (by simp) (by simp) expected items
    · exact sequence_decidesPlaces m rfl (by simp) (by simp) expected items
    · exact (sequence_decidesPlaces m rfl (by simp) (by simp) expected items).congr
        fun p item => by simp [Mode.inner]
  · intro mode hmode name attributes children actual htag
    have hcases : mode = .contains ∨ mode = .containsOnly ∨ mode = .containsDeep := by
      simpa using hmode
    rcases hcases with rfl | rfl | rfl <;>
      exact branch_decidesPlaces m rfl (by simp) (by simp) htag

/-- Two equal items have places of their own among three. -/
theorem equal_items_have_places :
    (ElementPattern.branch "r" []
        [.leaf "i" [] (.literal (.string "1")), .leaf "i" [] (.literal (.string "1"))]).TagFits
      .contains
      ⟨"r", [], [.element ⟨"i", [], [.text "1"]⟩, .element ⟨"i", [], [.text "2"]⟩,
        .element ⟨"i", [], [.text "1"]⟩]⟩ ∧
    (Matcher.initial.compareWith
      (.element ⟨"r", [], [.element ⟨"i", [], [.text "1"]⟩, .element ⟨"i", [], [.text "2"]⟩,
        .element ⟨"i", [], [.text "1"]⟩]⟩)
      (.element (.branch "r" []
        [.leaf "i" [] (.literal (.string "1")), .leaf "i" [] (.literal (.string "1"))]))
      .contains).passes = true := by
  have htag : (ElementPattern.branch "r" []
        [.leaf "i" [] (.literal (.string "1")), .leaf "i" [] (.literal (.string "1"))]).TagFits
      .contains
      ⟨"r", [], [.element ⟨"i", [], [.text "1"]⟩, .element ⟨"i", [], [.text "2"]⟩,
        .element ⟨"i", [], [.text "1"]⟩]⟩ := by
    refine ⟨rfl, nofun, ?_⟩
    intro entry hentry
    cases hentry
  have hdecides :=
    (containment_iff_distinct_places Matcher.initial).2 .contains (by simp) _ _ _ _ htag
  -- the expected items go to the first and the last actual one
  refine ⟨htag, hdecides.passes_iff.2 ⟨nofun, fun e => ⟨2 * e.val, ?_⟩, ?_, ?_⟩⟩
  · have hlt : e.val < 2 := e.isLt
    show 2 * e.val < 3
    omega
  · intro a b h
    simp only [Fin.mk.injEq] at h
    exact Fin.ext (by omega)
  · rintro ⟨n, hn⟩
    have hcases : n = 0 ∨ n = 1 := by
      have hlt : n < 2 := hn
      omega
    rcases hcases with rfl | rfl
    · rfl
    · rfl

end DocMatch
