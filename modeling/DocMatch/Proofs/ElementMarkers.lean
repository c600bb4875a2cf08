import DocMatch.Marker.Basic
import DocMatch.Proofs.Places
/-!
What the check of a marker finds.  A marker describes a set of values, and a check passes
exactly those.  Of any other value it lists the elements that fail: each once, in the order
of their indexes, and all of them that stand in sequences of the right size.
-/

namespace DocMatch

namespace Marker

/-- The values that a marker describes. -/
inductive Describes : Marker → Value → Prop
  | null {m : Marker} (isOptional : m.isOptional = true) : Describes m .null
  | tested {text : String} {isOptional : Bool} {test : Validator} {v : Value}
      (accepted : test.accepts v = true) : Describes (.validator text isOptional test) v
  | items {text : String} {isOptional : Bool} {size : Option Nat} {each : Option Marker}
      {items : List Value} (length : ∀ n, size = some n → items.length = n)
      (elements : ∀ m, each = some m → ∀ item ∈ items, Describes m item) :
      Describes (.sequence text isOptional size each) (.sequence items)

/-- The values that pass a marker as wholes, whatever the elements of a sequence are. -/
inductive TakesWhole : Marker → Value → Prop
  | null {m : Marker} (isOptional : m.isOptional = true) : TakesWhole m .null
  | tested {text : String} {isOptional : Bool} {test : Validator} {v : Value}
      (accepted : test.accepts v = true) : TakesWhole (.validator text isOptional test) v
  | items {text : String} {isOptional : Bool} {size : Option Nat} {each : Option Marker}
      {items : List Value} (length : ∀ n, size = some n → items.length = n) :
      TakesWhole (.sequence text isOptional size each) (.sequence items)

/-- The elements of a sequence, with the marker that is for them, if there is one. -/
def elements? : Marker → Value → Option (Marker × List Value)
  | .sequence _ _ _ (some each), .sequence items => some (each, items)
  | _, _ => none

/-- The values that a check comes to, through sequences that pass as wholes, each with its
indexes and the marker that is for it. -/
inductive Reaches : Marker → Value → List Nat → Marker → Value → Prop
  | whole {m : Marker} {v : Value} : Reaches m v [] m v
  | element {m each inner : Marker} {v item w : Value} {items : List Value} {i : Nat}
      {indexes : List Nat} (taken : m.TakesWhole v) (parts : m.elements? v = some (each, items))
      (isItem : items[i]? = some item) (below : Reaches each item indexes inner w) :
      Reaches m v (i :: indexes) inner w

/-- The marker of the elements that are as many sequences deep. -/
def atDepth? : Marker → Nat → Option Marker
  | m, 0 => some m
  | .sequence _ _ _ (some each), n + 1 => each.atDepth? n
  | _, _ + 1 => none

variable {m each inner : Marker} {v w : Value} {items : List Value} {indexes : List Nat}
  {f : MarkerFailure}

theorem elements?_eq_some_iff : m.elements? v = some (each, items) ↔
    (∃ text isOptional size, m = .sequence text isOptional size (some each)) ∧
      v = .sequence items := by
  unfold elements?
  split
  · rw [Option.some.injEq, Prod.mk.injEq]
    simp
  · rename_i hneither
    refine ⟨nofun, ?_⟩
    rintro ⟨⟨text, isOptional, size, rfl⟩, rfl⟩
    exact absurd rfl (hneither _ _ _ _ _ rfl)

/-- Induction on a marker and a value, from the elements outwards. -/
theorem induct {motive : Marker → Value → Prop}
    (step : ∀ m v, (∀ each items, m.elements? v = some (each, items) →
      ∀ item ∈ items, motive each item) → motive m v) : ∀ m v, motive m v
  | .validator .., v => step _ v nofun
  | .sequence _ _ _ none, v => step _ v nofun
  | .sequence _ _ _ (some each), v => by
      apply step _ v
      intro each' items hparts item _
      obtain ⟨⟨_, _, _, heq⟩, -⟩ := elements?_eq_some_iff.1 hparts
      cases heq
      exact induct step each item

theorem size_all_iff {size : Option Nat} {n : Nat} :
    size.all (· == n) = true ↔ ∀ k, size = some k → n = k := by
  rw [Option.all_eq_true]
  apply forall_congr'
  intro k
  rw [beq_iff_eq, eq_comm (a := k)]

theorem isNull_eq_true_iff : v.isNull = true ↔ v = .null := by
  cases v <;> simp [Value.isNull]

/-- Null passes an optional marker, so what does not pass is not excused. -/
theorem excused_eq_false (h : ¬ m.TakesWhole v) : (m.isOptional && v.isNull) = false := by
  rw [Bool.and_eq_false_imp]
  intro hoptional
  rw [Bool.eq_false_iff, Ne, isNull_eq_true_iff]
  rintro rfl
  exact h (.null hoptional)

/-- A value that fails as a whole is all that its check reports. -/
theorem check_of_not_takesWhole (h : ¬ m.TakesWhole v) :
    ∃ message, m.check v = [⟨[], message⟩] := by
  have hexcused := excused_eq_false h
  cases m with
  | validator text isOptional test =>
      have hrefused : test.accepts v = false := by
        rw [Bool.eq_false_iff]
        exact fun haccepted => h (.tested haccepted)
      simp only [Marker.isOptional] at hexcused
      simp [check, hexcused, Validator.check, hrefused]
  | sequence text isOptional size each =>
      simp only [Marker.isOptional] at hexcused
      cases v with
      | sequence items =>
          have hsize : size.all (· == items.length) = false := by
            rw [Bool.eq_false_iff, Ne, size_all_iff]
            exact fun length => h (.items length)
          cases each <;> simp [check, hexcused, hsize]
      | _ => simp [check, hexcused]

/-- A value that passes as a whole and has no elements to be checked passes. -/
theorem check_of_elements?_eq_none (taken : m.TakesWhole v) (hnone : m.elements? v = none) :
    m.check v = [] := by
  cases taken with
  | null isOptional => cases m <;> simp_all [check, Marker.isOptional, Value.isNull]
  | tested accepted => simp [check, Validator.check, accepted]
  | @items text isOptional size each items length =>
      cases each with
      | none => simp [check, Value.isNull, size_all_iff.2 length]
      | some each => cases hnone

/-- A value that passes as a whole is checked element by element. -/
theorem check_of_elements? (taken : m.TakesWhole v) (parts : m.elements? v = some (each, items)) :
    m.check v = items.zipIdx.flatMap fun entry =>
      (each.check entry.1).map (MarkerFailure.within entry.2) := by
  obtain ⟨⟨text, isOptional, size, rfl⟩, rfl⟩ := elements?_eq_some_iff.1 parts
  cases taken with
  | items length => simp [check, Value.isNull, size_all_iff.2 length]

/-- Below a value that passes as a whole the failures are those of its elements. -/
theorem mem_check_iff (taken : m.TakesWhole v) (parts : m.elements? v = some (each, items)) :
    f ∈ m.check v ↔
      ∃ item i g, items[i]? = some item ∧ g ∈ each.check item ∧ g.within i = f := by
  rw [check_of_elements? taken parts, List.mem_flatMap]
  constructor
  · rintro ⟨⟨item, i⟩, hmem, hf⟩
    obtain ⟨g, hg, rfl⟩ := List.mem_map.1 hf
    exact ⟨item, i, g, List.mem_zipIdx_iff_getElem?.1 hmem, hg, rfl⟩
  · rintro ⟨item, i, g, hitem, hg, rfl⟩
    exact ⟨(item, i), List.mem_zipIdx_iff_getElem?.2 hitem, List.mem_map_of_mem hg⟩

/-- A sequence that passes as a whole passes if all its elements do. -/
theorem check_eq_nil_iff_of_elements? (taken : m.TakesWhole v)
    (parts : m.elements? v = some (each, items)) :
    m.check v = [] ↔ ∀ item ∈ items, each.check item = [] := by
  rw [check_of_elements? taken parts, List.flatMap_eq_nil_iff]
  simp only [List.map_eq_nil_iff]
  conv_rhs => rw [← List.zipIdx_map_fst 0 items]
  rw [List.forall_mem_map]

/-- What fails where a check comes to is reported. -/
theorem Reaches.exists_mem_check (h : m.Reaches v indexes inner w) (fails : ¬ inner.TakesWhole w) :
    ∃ f ∈ m.check v, f.indexes = indexes := by
  induction h with
  | whole =>
      obtain ⟨message, hcheck⟩ := check_of_not_takesWhole fails
      rw [hcheck]
      exact ⟨_, List.mem_singleton_self _, rfl⟩
  | element taken parts isItem below ih =>
      obtain ⟨g, hg, rfl⟩ := ih fails
      exact ⟨g.within _, (mem_check_iff taken parts).2 ⟨_, _, g, isItem, hg, rfl⟩, rfl⟩

/-- What is reported fails, and the check has come to it. -/
theorem exists_reaches_of_mem_check :
    ∀ (m : Marker) (v : Value) {f : MarkerFailure}, f ∈ m.check v →
      ∃ inner w, m.Reaches v f.indexes inner w ∧ ¬ inner.TakesWhole w := by
  apply Marker.induct
  intro m v ih f hf
  by_cases taken : m.TakesWhole v
  · cases parts : m.elements? v with
    | none => simp [check_of_elements?_eq_none taken parts] at hf
    | some marked =>
        obtain ⟨item, i, g, hitem, hg, rfl⟩ := (mem_check_iff taken parts).1 hf
        obtain ⟨inner, w, hreaches, hfails⟩ :=
          ih _ _ parts item (List.mem_of_getElem? hitem) hg
        exact ⟨inner, w, .element taken parts hitem hreaches, hfails⟩
  · obtain ⟨message, hcheck⟩ := check_of_not_takesWhole taken
    rw [hcheck, List.mem_singleton] at hf
    subst hf
    exact ⟨m, v, .whole, taken⟩

/-- The failures are in the order of their indexes, and no two are at the same place. -/
theorem pairwise_check :
    ∀ (m : Marker) (v : Value), (m.check v).Pairwise fun f g => f.indexes < g.indexes := by
  apply Marker.induct
  intro m v ih
  by_cases taken : m.TakesWhole v
  · cases parts : m.elements? v with
    | none =>
        rw [check_of_elements?_eq_none taken parts]
        exact List.Pairwise.nil
    | some marked =>
        have hindexes : marked.2.zipIdx.Pairwise fun a b => a.2 < b.2 := by
          rw [← List.pairwise_map (f := Prod.snd), List.zipIdx_map_snd]
          exact List.pairwise_lt_range'
        rw [check_of_elements? taken parts, List.pairwise_flatMap]
        constructor
        · intro entry hentry
          rw [List.pairwise_map]
          have hitem : entry.1 ∈ marked.2 := List.fst_mem_of_mem_zipIdx hentry
          apply (ih _ _ parts _ hitem).imp
          intro f g hlt
          exact List.cons_lt_cons_iff.2 (.inr ⟨rfl, hlt⟩)
        · apply hindexes.imp
          intro a b hlt f hf g hg
          obtain ⟨f, -, rfl⟩ := List.mem_map.1 hf
          obtain ⟨g, -, rfl⟩ := List.mem_map.1 hg
          exact List.cons_lt_cons_iff.2 (.inl hlt)
  · obtain ⟨message, hcheck⟩ := check_of_not_takesWhole taken
    rw [hcheck]
    exact List.pairwise_singleton _ _

theorem describes_iff : m.Describes v ↔ m.TakesWhole v ∧
    ∀ each items, m.elements? v = some (each, items) → ∀ item ∈ items, each.Describes item := by
  constructor
  · intro h
    cases h with
    | null isOptional => exact ⟨.null isOptional, fun _ _ hparts => by
        cases (elements?_eq_some_iff.1 hparts).2⟩
    | tested accepted => exact ⟨.tested accepted, nofun⟩
    | items length elements =>
        refine ⟨.items length, fun each items hparts => ?_⟩
        obtain ⟨⟨_, _, _, hm⟩, hv⟩ := elements?_eq_some_iff.1 hparts
        cases hm
        cases hv
        exact elements each rfl
  · rintro ⟨taken, helements⟩
    cases taken with
    | null isOptional => exact .null isOptional
    | tested accepted => exact .tested accepted
    | items length =>
        apply Describes.items length
        rintro each rfl
        exact helements each _ rfl

/-- A check passes exactly the values that the marker describes. -/
theorem check_eq_nil_iff : ∀ (m : Marker) (v : Value), m.check v = [] ↔ m.Describes v := by
  apply Marker.induct
  intro m v ih
  rw [describes_iff]
  by_cases taken : m.TakesWhole v
  · rw [and_iff_right taken]
    cases parts : m.elements? v with
    | none => simp [check_of_elements?_eq_none taken parts]
    | some marked =>
        obtain ⟨each, items⟩ := marked
        have hitems : (∀ item ∈ items, each.check item = []) ↔
            ∀ item ∈ items, each.Describes item :=
          forall₂_congr fun item hitem => ih each items parts item hitem
        rw [check_eq_nil_iff_of_elements? taken parts, hitems]
        simp
  · obtain ⟨message, hcheck⟩ := check_of_not_takesWhole taken
    simp [hcheck, taken]

/-- The indexes of what a check comes to lead there, and there are as many as the marker for it
is deep. -/
theorem Reaches.lookup (h : m.Reaches v indexes inner w) :
    m.atDepth? indexes.length = some inner ∧ v.get? (indexes.map .index) = some w := by
  induction h with
  | whole => exact ⟨by rw [List.length_nil, atDepth?], rfl⟩
  | element taken parts isItem below ih =>
      obtain ⟨⟨text, isOptional, size, rfl⟩, rfl⟩ := elements?_eq_some_iff.1 parts
      rw [List.map_cons, Value.get?_item isItem]
      exact ih

end Marker

/-- A check passes the values that the marker describes and no others.  What it reports is in
the order of the indexes, each at a place of its own.  The indexes lead, through sequences of
the right size, to an element that fails the marker at that depth, and every such element is
reported. -/
theorem check_reports_failing_elements (m : Marker) (v : Value) :
    (m.check v = [] ↔ m.Describes v) ∧
    (m.check v).Pairwise (fun f g => f.indexes < g.indexes) ∧
    (∀ f ∈ m.check v, ∃ inner w, m.Reaches v f.indexes inner w ∧
      m.atDepth? f.indexes.length = some inner ∧ v.get? (f.indexes.map .index) = some w ∧
        ¬ inner.TakesWhole w) ∧
    ∀ indexes inner w, m.Reaches v indexes inner w → ¬ inner.TakesWhole w →
      ∃ f ∈ m.check v, f.indexes = indexes := by
  refine ⟨Marker.check_eq_nil_iff m v, Marker.pairwise_check m v, ?_, ?_⟩
  · intro f hf
    obtain ⟨inner, w, hreaches, hfails⟩ := Marker.exists_reaches_of_mem_check m v hf
    obtain ⟨hinner, hw⟩ := hreaches.lookup
    exact ⟨inner, w, hreaches, hinner, hw, hfails⟩
  · intro indexes inner w hreaches hfails
    exact hreaches.exists_mem_check hfails

/-- Of the elements `["a"]`, `null`, `[]` and `[true]` an optional marker for one string passes
the first two; of the last one it fails the element. -/
theorem second_level_failure_is_reported :
    let text : Marker := .validator "#string" false .string
    let single : Marker := .sequence "##[1] #string" true (some 1) (some text)
    let m : Marker := .sequence "#[] ##[1] #string" false none (some single)
    let v : Value := .sequence
      [.sequence [.string "a"], .null, .sequence [], .sequence [.bool true]]
    (m.check v).map MarkerFailure.indexes = [[2], [3, 0]] ∧
      m.Reaches v [3, 0] text (.bool true) ∧ ¬ text.TakesWhole (.bool true) ∧
        ∃ f ∈ m.check v, f.indexes = [3, 0] := by
  intro text single m v
  have hreaches : m.Reaches v [3, 0] text (.bool true) :=
    .element (.items nofun) rfl rfl (.element (.items (by simp)) rfl rfl .whole)
  have hfails : ¬ text.TakesWhole (.bool true) := by
    intro (h : Marker.TakesWhole (.validator "#string" false .string) (.bool true))
    cases h with
    | tested accepted => cases accepted
  obtain ⟨-, -, -, hall⟩ := check_reports_failing_elements m v
  exact ⟨rfl, hreaches, hfails, hall [3, 0] text (.bool true) hreaches hfails⟩

end DocMatch
