import DocMatch.Proofs.ReorderedExpected
/-!
Comparisons are blind to order where they claim to be: to that of keys and attributes in
every mode, to that of the items of a sequence in the modes of containment, and to that of
all items and child elements in the deep mode.
-/

namespace DocMatch

namespace Failure

theorem SamePaths.judge {failures others : List Failure} (h : SamePaths failures others)
    (mode : Mode) (place : Path) (v w : Option Value) (expected : Value) :
    SamePaths (Matcher.judge mode place v expected failures)
      (Matcher.judge mode place w expected others) := by
  rw [Matcher.judge, Matcher.judge, h.isEmpty_eq]
  split
  · exact h
  · split <;> rfl

end Failure

namespace Matcher

variable {m : Matcher} {v w expected other : Value} {p q : Pattern} {mode : Mode}

/-- Whether a comparison passes; none if it is not possible. -/
def verdict? (m : Matcher) (actual expected : Value) (mode : Mode) : Option Bool :=
  (m.compare actual expected mode).toOption.map Comparison.passes

/-- The paths of the failures of a comparison one after another. -/
def failurePaths? (m : Matcher) (actual expected : Value) (mode : Mode) : Option (List Path) :=
  (m.compare actual expected mode).toOption.map fun c => c.failures.map Failure.path

theorem passes_iff_fits (mode : Mode) (p : Pattern) (v : Value) :
    (m.compareWith v p mode).passes = true ↔
      (p.Fits m.settings mode.positive v ↔ mode.isNegated = false) := by
  rw [compareWith, Comparison.passes, List.isEmpty_iff, failures_eq_judge, judge_eq_nil_iff,
    Pattern.Fits]

/-- Comparisons have the same verdict if either both or none are possible and the same
values fit. -/
theorem verdict?_eq (hok : (m.compile expected).isOk = (m.compile other).isOk)
    (hfits : ∀ p q, m.compile expected = .ok p → m.compile other = .ok q →
      (p.Fits m.settings mode.positive v ↔ q.Fits m.settings mode.positive w)) :
    m.verdict? v expected mode = m.verdict? w other mode := by
  rw [verdict?, verdict?, compare, compare]
  cases hp : m.compile expected with
  | error e =>
      cases hq : m.compile other with
      | error d => rfl
      | ok q =>
          rw [hp, hq] at hok
          cases hok
  | ok p =>
      cases hq : m.compile other with
      | error d =>
          rw [hp, hq] at hok
          cases hok
      | ok q =>
          have hpasses : (m.compareWith v p mode).passes = (m.compareWith w q mode).passes := by
            rw [Bool.eq_iff_iff, passes_iff_fits, passes_iff_fits, hfits p q hp hq]
          exact congrArg some hpasses

theorem isOk_iff {α : Type} {x : Except MatchError α} : x.isOk = true ↔ ∃ a, x = .ok a := by
  cases x <;> simp [Except.isOk, Except.toBool]

/-- An expected value that compiles does so with its parts in another order. -/
theorem compile_of_reordered {shuffle : Shuffle} (h : expected.Reordered shuffle other)
    (hp : m.compile expected = .ok p) : ∃ q, m.compile other = .ok q ∧ p.Reordered shuffle q :=
  Pattern.compileWithin_of_reordered h hp

theorem isOk_compile_of_reordered {shuffle : Shuffle} (h : expected.Reordered shuffle other) :
    (m.compile expected).isOk = (m.compile other).isOk := by
  rw [Bool.eq_iff_iff, isOk_iff, isOk_iff]
  constructor
  · rintro ⟨p, hp⟩
    obtain ⟨q, hq, -⟩ := compile_of_reordered h hp
    exact ⟨q, hq⟩
  · rintro ⟨q, hq⟩
    obtain ⟨p, hp, -⟩ := compile_of_reordered (Value.Reordered.symm expected h) hq
    exact ⟨p, hp⟩

/-- The same values fit an expected value whose parts are in another order. -/
theorem fits_of_compile {shuffle : Shuffle} (hmode : shuffle.IgnoredIn mode)
    (h : expected.Reordered shuffle other) (hp : m.compile expected = .ok p)
    (hq : m.compile other = .ok q) (v : Value) :
    p.Fits m.settings mode v ↔ q.Fits m.settings mode v := by
  obtain ⟨q', hq', hreordered⟩ := compile_of_reordered h hp
  obtain rfl : q = q' := Except.ok.inj (hq.symm.trans hq')
  exact (p.fittedAlike_of_reordered hreordered).fits_iff hmode v

theorem verdict?_of_keys (hv : v.WellFormed) (hactual : v.Reordered .keys w)
    (hexpected : expected.Reordered .keys other) :
    m.verdict? v expected mode = m.verdict? w other mode := by
  refine verdict?_eq (isOk_compile_of_reordered hexpected) fun p q hp hq => ?_
  have halike : p.FailsAlike m.settings v w :=
    p.failsAlike_of_reordered (plain_of_compile hp) hv hactual
  have hactualFits : p.Fits m.settings mode.positive v ↔ p.Fits m.settings mode.positive w :=
    (halike.paths _).eq_nil_iff
  have hkeys : Shuffle.keys.IgnoredIn mode.positive := nofun
  exact hactualFits.trans (fits_of_compile hkeys hexpected hp hq w)

theorem failurePaths?_of_keys (hv : v.WellFormed) (hactual : v.Reordered .keys w) :
    m.failurePaths? v expected mode = m.failurePaths? w expected mode := by
  rw [failurePaths?, failurePaths?, compare, compare]
  cases hp : m.compile expected with
  | error e => rfl
  | ok p =>
      have halike : p.FailsAlike m.settings v w :=
        p.failsAlike_of_reordered (plain_of_compile hp) hv hactual
      have hpaths : Failure.SamePaths (m.failures mode p v) (m.failures mode p w) := by
        rw [failures_eq_judge, failures_eq_judge]
        exact (halike.paths _).judge _ _ _ _ _
      exact congrArg some hpaths

theorem verdict?_of_parts (hv : v.WellFormed) (hactual : v.Reordered .parts w)
    (hexpected : expected.Reordered .parts other) :
    m.verdict? v expected .containsDeep = m.verdict? w other .containsDeep := by
  refine verdict?_eq (isOk_compile_of_reordered hexpected) fun p q hp hq => ?_
  exact (p.fits_deep_of_reordered (plain_of_compile hp) hv hactual).trans
    (fits_of_compile (fun _ => rfl) hexpected hp hq w)

theorem positive_ne_equals (hmode : mode.isContainment = true) : mode.positive ≠ .equals := by
  cases mode <;> simp_all [Mode.isContainment, Mode.positive]

variable {items others : List Value}

theorem verdict?_of_actual_perm (hmode : mode.isContainment = true) (h : items.Perm others) :
    m.verdict? (.sequence items) expected mode = m.verdict? (.sequence others) expected mode := by
  refine verdict?_eq rfl fun p q hp hq => ?_
  obtain rfl : p = q := Except.ok.inj (hp.symm.trans hq)
  exact Pattern.fits_of_perm (positive_ne_equals hmode) (plain_of_compile hp) h

theorem verdict?_of_expected_perm (hmode : mode.isContainment = true) (h : items.Perm others) :
    m.verdict? v (.sequence items) mode = m.verdict? v (.sequence others) mode := by
  have hreordered : (Value.sequence items).Reordered .parts (.sequence others) :=
    .sequence (List.forall₂_same.2 fun item _ => .refl item) h
  refine verdict?_eq (isOk_compile_of_reordered hreordered) fun p q hp hq => ?_
  obtain ⟨ps, hps, rfl⟩ := map_eq_ok_iff.1 hp
  obtain ⟨qs, hqs, hperm⟩ := Pattern.compileList_of_perm h hps
  obtain rfl : q = .sequence qs :=
    Except.ok.inj (hq.symm.trans (map_eq_ok_iff.2 ⟨qs, hqs, rfl⟩))
  exact Pattern.fits_of_expected_perm (positive_ne_equals hmode) hperm v

end Matcher

/-- Comparisons do not see order where it does not count.  With keys and attributes shuffled
at any depth on both sides the expected value compiles as before and the verdict is the same
in every mode, and with those of the actual value alone the failures have the same paths.
In the modes of containment the items of a sequence may stand in any order, and in the deep
mode so may all items and child elements, at any depth and on both sides. -/
theorem comparison_blind_to_order (m : Matcher) :
    (∀ {actual actual' expected expected' : Value}, actual.WellFormed →
      actual.Reordered .keys actual' → expected.Reordered .keys expected' →
        (m.compile expected).isOk = (m.compile expected').isOk ∧
        ∀ mode, m.verdict? actual expected mode = m.verdict? actual' expected' mode ∧
          m.failurePaths? actual expected mode = m.failurePaths? actual' expected mode) ∧
    (∀ {mode : Mode}, mode.isContainment = true →
      ∀ {items others : List Value}, items.Perm others →
        (∀ expected, m.verdict? (.sequence items) expected mode =
          m.verdict? (.sequence others) expected mode) ∧
        ∀ actual, m.verdict? actual (.sequence items) mode =
          m.verdict? actual (.sequence others) mode) ∧
    (∀ {actual actual' expected expected' : Value}, actual.WellFormed →
      actual.Reordered .parts actual' → expected.Reordered .parts expected' →
        m.verdict? actual expected .containsDeep = m.verdict? actual' expected' .containsDeep) := by
  refine ⟨fun hwell hactual hexpected => ⟨?_, fun mode => ⟨?_, ?_⟩⟩,
    fun hmode _ _ h => ⟨fun _ => ?_, fun _ => ?_⟩, fun hwell hactual hexpected => ?_⟩
  · exact Matcher.isOk_compile_of_reordered hexpected
  · exact Matcher.verdict?_of_keys hwell hactual hexpected
  · exact Matcher.failurePaths?_of_keys hwell hactual
  · exact Matcher.verdict?_of_actual_perm hmode h
  · exact Matcher.verdict?_of_expected_perm hmode h
  · exact Matcher.verdict?_of_parts hwell hactual hexpected

/-- Two entries swapped fail at the same path, one of two swapped items is found as before,
and with both swapped the deep mode decides the same. -/
theorem swapped_parts_compared_alike :
    Matcher.initial.failurePaths?
        (.mapping [("b", .sequence [.bool true, .null]), ("a", .string "x")])
        (.mapping [("a", .string "#number"), ("b", .sequence [.bool true, .null])]) .equals =
      some [[.key "a"]] ∧
    Matcher.initial.verdict? (.sequence [.null, .bool true])
        (.sequence [.bool true, .bool false]) .containsAny = some true ∧
    Matcher.initial.verdict?
        (.mapping [("a", .string "x"), ("b", .sequence [.bool true, .null])])
        (.mapping [("a", .string "#string"), ("b", .sequence [.bool true])]) .containsDeep =
      Matcher.initial.verdict?
        (.mapping [("b", .sequence [.null, .bool true]), ("a", .string "x")])
        (.mapping [("a", .string "#string"), ("b", .sequence [.bool true])]) .containsDeep := by
  obtain ⟨hkeys, htop, hdeep⟩ := comparison_blind_to_order Matcher.initial
  have hwell : (Value.mapping [("a", .string "x"),
      ("b", .sequence [.bool true, .null])]).WellFormed := by
    simp [Value.WellFormed, Value.WellFormedEntries, Value.WellFormedItems, Fields.Distinct,
      Fields.keys]
  have hswapped : ∀ {shuffle : Shuffle} {items : List Value},
      (Value.sequence [.bool true, .null]).Reordered shuffle (.sequence items) →
        (Value.mapping [("a", .string "x"), ("b", .sequence [.bool true, .null])]).Reordered shuffle
          (.mapping [("b", .sequence items), ("a", .string "x")]) :=
    fun h => .mapping (.cons (.intro (.leaf rfl)) (.cons (.intro h) .nil)) (.swap _ _ [])
  have hperm : [Value.bool true, .null].Perm [.null, .bool true] := .swap _ _ []
  have hitems : (Value.sequence [.bool true, .null]).Reordered .parts
      (.sequence [.null, .bool true]) :=
    .sequence (List.forall₂_same.2 fun item _ => .refl item) hperm
  have hcontainment : Mode.containsAny.isContainment = true := rfl
  refine ⟨?_, ?_, ?_⟩
  · obtain ⟨-, hmodes⟩ := hkeys hwell (hswapped (.refl _)) (.refl (.mapping
      [("a", .string "#number"), ("b", .sequence [.bool true, .null])]))
    exact (hmodes .equals).2.symm.trans rfl
  · exact ((htop hcontainment hperm).1 _).symm.trans rfl
  · exact hdeep hwell (hswapped hitems) (.refl _)

end DocMatch
