import DocMatch.Proofs.HeldDocuments
/-!
Comparing parts of a document.  What is at a path is compared as if it were a document of its
own, and so is each item of a sequence: the failures are the same in the same order, and only
their paths start with that of the part.
-/

namespace DocMatch

/-- Whether a value is a sequence of the given items, or a text that holds one. -/
def Value.HoldsItems (settings : Settings) (v : Value) (items : List Value) : Prop :=
  v = .sequence items ∨ settings.parseEmbeddedDocuments = true ∧
    ∃ text, v = .string text ∧ readDocument text = .ok (.sequence items)

theorem Value.HoldsItems.unfolded {settings : Settings} {v : Value} {items : List Value}
    (h : v.HoldsItems settings items) : v.unfolded settings = .sequence items := by
  rcases h with rfl | ⟨hparse, text, rfl, hread⟩
  · rfl
  · rw [Value.unfolded, Pattern.document?_of_readDocument hparse hread]
    rfl

namespace Matcher

variable {m : Matcher} {p : Pattern} {mode : Mode} {expected actual : Value}

/-- What is missing fits only an expectation that allows it. -/
theorem evaluate_none_eq_nil_iff (place : Path) :
    m.evaluate mode p place none = [] ↔ (p.allowsAbsent = true ↔ mode.isNegated = false) := by
  have habsent : (Failure.addAbsent p.allowsAbsent p.toValue place #[]).toList = [] ↔
      p.allowsAbsent = true := by
    unfold Failure.addAbsent
    split
    · simp [*]
    · split <;> simp [*]
  rw [evaluate, judge_eq_nil_iff, habsent]

theorem compareAt_of_compile (hp : m.compile expected = .ok p) {text : String} {place : Path}
    (hread : Path.read text = .ok place) :
    m.compareAt actual text expected mode =
      .ok ⟨mode, m.evaluate mode p place (actual.get? place)⟩ := by
  rw [compareAt, hread, hp]
  rfl

theorem compareEachWith_of_holdsItems {items : List Value}
    (h : actual.HoldsItems m.settings items) (hne : items ≠ []) :
    m.compareEachWith actual p mode =
      ⟨mode, items.zipIdx.flatMap fun (item, i) =>
        (m.compareWith item p mode).failures.map (Failure.below [.index i])⟩ := by
  have hitems : items.isEmpty = false := List.isEmpty_eq_false_iff.2 hne
  rw [compareEachWith, h.unfolded]
  simp only [hitems, Bool.false_and, Bool.false_eq_true, if_false, evaluate_some]
  rfl

end Matcher

/-- Comparisons of parts are relocated comparisons.  At a path, the failures are those of
the value there, below the path, and what is missing passes as far as the expectation allows
it.  Item by item, the failures are those of one item after the other, below their indexes,
so that all passes if and only if every item passes by itself. -/
theorem parts_compared_by_themselves (m : Matcher) {expected : Value} {p : Pattern}
    (hp : m.compile expected = .ok p) (actual : Value) (mode : Mode) :
    (∀ text place, Path.read text = .ok place →
      ∃ c, m.compareAt actual text expected mode = .ok c ∧
        (∀ found, actual.get? place = some found →
          ∃ d, m.compare found expected mode = .ok d ∧
            c.failures = d.failures.map (Failure.below place)) ∧
        (actual.get? place = none →
          (mode.isNegated = false → (c.passes = true ↔ p.allowsAbsent = true)) ∧
          (mode.isNegated = true → (c.passes = true ↔ p.allowsAbsent = false)))) ∧
    (∀ items, actual.HoldsItems m.settings items → items ≠ [] →
      ∃ c ds, m.compareEach actual expected mode = .ok c ∧
        List.Forall₂ (fun item d => m.compare item expected mode = .ok d) items ds ∧
        c.failures = ds.zipIdx.flatMap
          (fun (d, i) => d.failures.map (Failure.below [.index i])) ∧
        (c.passes = true ↔ ∀ d ∈ ds, d.passes = true)) := by
  constructor
  · intro text place hread
    refine ⟨_, Matcher.compareAt_of_compile hp hread, ?_, ?_⟩
    · intro found hfound
      refine ⟨_, Matcher.compare_of_compile hp found mode, ?_⟩
      rw [hfound]
      exact m.evaluate_some mode place found
    · intro hmissing
      rw [Comparison.passes, hmissing, List.isEmpty_iff, Matcher.evaluate_none_eq_nil_iff]
      cases mode.isNegated <;> simp
  · intro items hitems hne
    refine ⟨_, items.map fun item => m.compareWith item p mode,
      Matcher.compareEach_of_compile hp actual mode, ?_, ?_, ?_⟩
    · rw [List.forall₂_map_right_iff, List.forall₂_same]
      exact fun item _ => Matcher.compare_of_compile hp item mode
    · rw [Matcher.compareEachWith_of_holdsItems hitems hne, List.zipIdx_map, List.flatMap_map]
      rfl
    · rw [Comparison.passes, Matcher.compareEachWith_of_holdsItems hitems hne,
        List.isEmpty_iff, List.flatMap_eq_nil_iff, List.forall_mem_map]
      simp only [List.map_eq_nil_iff, Comparison.passes, List.isEmpty_iff]
      constructor
      · intro h item hitem
        obtain ⟨i, hi⟩ := List.getElem?_of_mem hitem
        exact h (item, i) (List.mem_zipIdx_iff_getElem?.2 hi)
      · rintro h ⟨item, i⟩ hmem
        exact h item (List.mem_of_getElem? (List.mem_zipIdx_iff_getElem?.1 hmem))

/-- A key that the second of two items lacks is missing at that item, whether the item is
found by its path or among all items. -/
theorem missing_key_found_at_item :
    Matcher.initial.compile (.mapping [("k", .string "#string")]) =
        .ok (.mapping [("k", .leaf (.marker (.validator "#string" false .string)))]) ∧
      (∃ c, Matcher.initial.compareAt (.sequence [.mapping [("k", .string "a")],
            .mapping []]) "$[1]" (.mapping [("k", .string "#string")]) .equals = .ok c ∧
          c.failures.map Failure.path = [[.index 1]]) ∧
      (∃ c, Matcher.initial.compareEach (.sequence [.mapping [("k", .string "a")],
            .mapping []]) (.mapping [("k", .string "#string")]) .equals = .ok c ∧
          c.passes = false) := by
  have hp : Matcher.initial.compile (.mapping [("k", .string "#string")]) =
      .ok (.mapping [("k", .leaf (.marker (.validator "#string" false .string)))]) := rfl
  obtain ⟨hat, heach⟩ := parts_compared_by_themselves Matcher.initial hp
    (.sequence [.mapping [("k", .string "a")], .mapping []]) .equals
  have hitem : (Matcher.initial.compare (.mapping []) (.mapping [("k", .string "#string")])
      .equals).map (fun d => d.failures.map Failure.path) = .ok [[]] := rfl
  refine ⟨hp, ?_, ?_⟩
  · obtain ⟨c, hc, hfound, -⟩ := hat "$[1]" [.index 1] rfl
    obtain ⟨d, hd, hfailures⟩ := hfound (.mapping []) rfl
    rw [hd] at hitem
    refine ⟨c, hc, ?_⟩
    rw [hfailures, List.map_map]
    have hpaths := congrArg (List.map ([.index 1] ++ ·)) (Except.ok.inj hitem)
    rwa [List.map_map] at hpaths
  · obtain ⟨c, ds, hc, hds, -, hpasses⟩ := heach _ (.inl rfl) (List.cons_ne_nil _ _)
    refine ⟨c, hc, Bool.eq_false_iff.2 fun hpass => ?_⟩
    obtain ⟨first, rest, -, hrest, rfl⟩ := List.forall₂_cons_left_iff.1 hds
    obtain ⟨second, others, hd, -, rfl⟩ := List.forall₂_cons_left_iff.1 hrest
    have hsecond := hpasses.1 hpass second (by simp)
    rw [hd] at hitem
    rw [Comparison.passes, List.isEmpty_iff] at hsecond
    simp [Except.map, hsecond] at hitem

end DocMatch
