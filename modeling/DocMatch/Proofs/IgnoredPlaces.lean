import DocMatch.Proofs.ReorderedActual
/-!
Ignored places.  Where a pattern holds a marker that ignores what it stands for, neither the
verdict nor any reason tells what the actual value has there: two values that differ only in
such places are reported alike.
-/

namespace DocMatch

namespace Marker

/-- Whether a marker ignores what it stands for. -/
def ignores : Marker → Bool
  | .validator _ _ .ignore => true
  | _ => false

/-- Whether two values agree wherever a marker looks.  A marker of elements looks at each of
them. -/
inductive Agree : Marker → Value → Value → Prop
  | same (m : Marker) (v : Value) : Agree m v v
  | ignored {m : Marker} (h : m.ignores = true) (v w : Value) : Agree m v w
  | sequence {text : String} {isOptional : Bool} {size : Option Nat} {each : Marker}
      {items others : List Value} (length_eq : items.length = others.length)
      (parts : ∀ pair ∈ items.zip others, Agree each pair.1 pair.2) :
      Agree (.sequence text isOptional size (some each)) (.sequence items) (.sequence others)

variable {m : Marker} {v w : Value}

theorem check_of_ignores (h : m.ignores = true) (v : Value) : m.check v = [] := by
  unfold ignores at h
  split at h
  · simp [check, Validator.check, Validator.accepts]
  · cases h

theorem allowsAbsent_of_ignores (h : m.ignores = true) : m.allowsAbsent = true := by
  unfold ignores at h
  split at h
  · simp [allowsAbsent, Validator.allowsAbsent]
  · cases h

/-- A marker says the same of two values that agree wherever it looks. -/
theorem Agree.check_eq (h : m.Agree v w) : m.check v = m.check w := by
  induction h with
  | same m v => rfl
  | ignored h v w => rw [check_of_ignores h, check_of_ignores h]
  | @sequence text isOptional size each items others length_eq _ ih =>
      have hparts := flatMap_check_of_forall₂
        (List.forall₂_iff_zip.2 ⟨length_eq, fun hpair => ih _ hpair⟩) 0
      simp only [check, isNull_sequence, length_eq, hparts]

end Marker

namespace Failure

/-- What a failure says, and of which place. -/
def finding (f : Failure) : Path × Mismatch :=
  (f.path, f.mismatch)

/-- Whether two lists of failures say the same of the same places one after another. -/
def SameFindings (failures others : List Failure) : Prop :=
  failures.map finding = others.map finding

variable {failures others : List Failure}

theorem SameFindings.append {rest rest' : List Failure} (h : SameFindings failures others)
    (hrest : SameFindings rest rest') : SameFindings (failures ++ rest) (others ++ rest') := by
  rw [SameFindings, List.map_append, List.map_append, h, hrest]

theorem SameFindings.below (h : SameFindings failures others) (place : Path) :
    SameFindings (failures.map (Failure.below place)) (others.map (Failure.below place)) := by
  have hmap : ∀ failures : List Failure, (failures.map (Failure.below place)).map finding =
      (failures.map finding).map (Prod.map (place ++ ·) id) := by
    intro failures
    rw [List.map_map, List.map_map]
    rfl
  rw [SameFindings, hmap, hmap, h]

theorem SameFindings.map_reason_eq (h : SameFindings failures others) :
    failures.map reason = others.map reason := by
  have hmap : ∀ failures : List Failure, failures.map reason =
      (failures.map finding).map fun found => Path.text found.1 ++ ": " ++ found.2.message := by
    intro failures
    rw [List.map_map]
    rfl
  rw [hmap, hmap, h]

end Failure

open Failure

namespace Pattern

/-- Whether a pattern is a marker that ignores what it stands for. -/
def ignores : Pattern → Bool
  | .leaf (.marker m) => m.ignores
  | _ => false

/-- Whether two values agree wherever a pattern looks.  Items are paired with those of the
pattern, and of further ones only the number counts.  Under a key of the pattern there may be
nothing on one side only if the pattern ignores what is there, and the entries under other keys
have to be the same.  The order of the keys of the pattern does not matter. -/
inductive Agree : Pattern → Value → Value → Prop
  | same (p : Pattern) (v : Value) : Agree p v v
  | marker {m : Marker} {v w : Value} (h : m.Agree v w) : Agree (.leaf (.marker m)) v w
  | sequence {expected : List Pattern} {items others : List Value}
      (length_eq : items.length = others.length)
      (parts : ∀ triple ∈ expected.zip (items.zip others), Agree triple.1 triple.2.1 triple.2.2) :
      Agree (.sequence expected) (.sequence items) (.sequence others)
  | mapping {expected : Fields Pattern} {entries others : Fields Value}
      (unexpected : extraEntries expected entries = extraEntries expected others)
      (present : ∀ entry ∈ expected, entry.2.ignores = false →
        Fields.contains entry.1 entries = Fields.contains entry.1 others)
      (parts : ∀ entry ∈ expected, ∀ v w, Fields.get? entry.1 entries = some v →
        Fields.get? entry.1 others = some w → Agree entry.2 v w) :
      Agree (.mapping expected) (.mapping entries) (.mapping others)

variable {settings : Settings} {mode : Mode} {p : Pattern} {v w : Value}

theorem failures_of_ignores (h : p.ignores = true) (v : Value) :
    p.failures settings mode v = [] := by
  unfold ignores at h
  split at h
  · simp [failures, Leaf.failures, Leaf.markerFailures, Marker.check_of_ignores h]
  · cases h

theorem absentFailures_of_ignores (h : p.ignores = true) (key : String) :
    p.absentFailures key = [] := by
  unfold ignores at h
  split at h
  · simp [absentFailures, allowsAbsent, Leaf.allowsAbsent, Marker.allowsAbsent_of_ignores h]
  · cases h

theorem sameFindings_of_items {expected : List Pattern} {items others : List Value}
    (hlength : items.length = others.length)
    (h : ∀ triple ∈ expected.zip (items.zip others),
      SameFindings (triple.1.failures settings .equals triple.2.1)
        (triple.1.failures settings .equals triple.2.2)) (i : Nat) :
    SameFindings (pairedFailures settings i expected items)
      (pairedFailures settings i expected others) := by
  induction expected generalizing i items others with
  | nil => rfl
  | cons p rest ih =>
      cases items with
      | nil => rw [List.length_eq_zero_iff.1 hlength.symm]; rfl
      | cons item items =>
          cases others with
          | nil => cases hlength
          | cons other others =>
              rw [List.zip_cons_cons, List.zip_cons_cons, List.forall_mem_cons] at h
              rw [pairedFailures, pairedFailures]
              exact (h.1.below _).append (ih (Nat.succ.inj hlength) h.2 (i + 1))

theorem sameFindings_of_entries {expected : Fields Pattern} {entries others : Fields Value}
    (hpresent : ∀ entry ∈ expected, entry.2.ignores = false →
      Fields.contains entry.1 entries = Fields.contains entry.1 others)
    (hparts : ∀ entry ∈ expected, ∀ v w, Fields.get? entry.1 entries = some v →
      Fields.get? entry.1 others = some w →
        SameFindings (entry.2.failures settings .equals v) (entry.2.failures settings .equals w)) :
    SameFindings (entryFailures settings .equals expected entries)
      (entryFailures settings .equals expected others) := by
  induction expected with
  | nil => rfl
  | cons entry rest ih =>
      obtain ⟨key, p⟩ := entry
      rw [List.forall_mem_cons] at hpresent hparts
      rw [entryFailures, entryFailures]
      apply SameFindings.append _ (ih hpresent.2 hparts.2)
      cases hignores : p.ignores with
      | true =>
          -- whether there is a value on both sides, on one or on none, nothing is found
          simp only [failures_of_ignores hignores, absentFailures_of_ignores hignores,
            List.map_nil]
          split <;> split <;> rfl
      | false =>
          have hcontains := hpresent.1 hignores
          cases hget : Fields.get? key entries with
          | none =>
              have hother : Fields.get? key others = none := by
                simpa [Fields.contains, hget] using hcontains
              simp only [hother]
              rfl
          | some v =>
              have hsome : (Fields.get? key others).isSome = true := by
                rw [← Fields.contains, ← hcontains, Fields.contains, hget, Option.isSome_some]
              obtain ⟨w, hother⟩ := Option.isSome_iff_exists.1 hsome
              simp only [hother]
              exact (hparts.1 v w hget hother).below _

/-- A pattern finds the same in two values that agree wherever it looks. -/
theorem Agree.sameFindings (h : p.Agree v w) :
    SameFindings (p.failures settings .equals v) (p.failures settings .equals w) := by
  induction h with
  | same p v => rfl
  | @marker m v w h =>
      simp only [failures, Leaf.failures, Leaf.markerFailures, SameFindings, h.check_eq,
        List.map_map]
      rfl
  | @sequence expected items others length_eq _ ih =>
      simp only [failures, Value.unfolded, if_true, length_eq]
      split
      · rfl
      · exact sameFindings_of_items length_eq ih 0
  | @mapping expected entries others unexpected present _ ih =>
      simp only [failures, Value.unfolded, unexpected, reduceCtorEq, if_false]
      apply SameFindings.append _ (sameFindings_of_entries present ih)
      generalize (if Mode.equals.isExact = true then extraEntries expected others else []) = extra
      cases extra <;> rfl

end Pattern

namespace Matcher

variable {m : Matcher}

theorem sameFindings_judge {failures others : List Failure} (h : SameFindings failures others)
    (mode : Mode) (place : Path) (actual other : Option Value) (expected : Value) :
    SameFindings (judge mode place actual expected failures)
      (judge mode place other expected others) := by
  have hempty : failures.isEmpty = others.isEmpty := by
    rw [← List.isEmpty_map, h, List.isEmpty_map]
  unfold judge
  rw [hempty]
  split
  · exact h
  · split <;> rfl

end Matcher

/-- Ignored places are hidden.  Two values that agree wherever a pattern looks, and so may
have anything where it ignores what is there, or under a key nothing at all, are found equal
or unequal to what the pattern comes from for the same reasons. -/
theorem ignored_places_are_hidden (m : Matcher) (expected : Value) (p : Pattern)
    (hp : m.compile expected = .ok p) (v w : Value) (h : p.Agree v w) :
    ∀ mode ∈ [Mode.equals, .notEquals], ∃ c d, m.compare v expected mode = .ok c ∧
      m.compare w expected mode = .ok d ∧ c.reasons = d.reasons := by
  intro mode hmode
  have hpositive : mode.positive = .equals := by
    rcases List.mem_pair.1 hmode with rfl | rfl <;> rfl
  refine ⟨_, _, Matcher.compare_of_compile hp v mode, Matcher.compare_of_compile hp w mode, ?_⟩
  rw [Comparison.reasons, Comparison.reasons, Matcher.compareWith, Matcher.compareWith,
    Matcher.failures_eq_judge, Matcher.failures_eq_judge, hpositive]
  exact (Matcher.sameFindings_judge h.sameFindings ..).map_reason_eq

/-- An ignored text may be left out and an ignored item changed: what is reported is the same,
and is only what is wrong elsewhere. -/
theorem ignored_id_and_item_hidden :
    let expected : Value := .mapping [("id", .string "#ignore"),
      ("tags", .sequence [.string "#ignore", .bool true]), ("done", .bool true)]
    let v : Value := .mapping [("id", .string "7f"),
      ("tags", .sequence [.string "new", .bool true]), ("done", .bool false)]
    let w : Value := .mapping [("tags", .sequence [.null, .bool true]), ("done", .bool false)]
    ∃ p, Matcher.initial.compile expected = .ok p ∧ p.Agree v w ∧
      ∃ c d, Matcher.initial.compare v expected .equals = .ok c ∧
        Matcher.initial.compare w expected .equals = .ok d ∧ c.reasons = d.reasons ∧
        (Matcher.initial.compare w expected .equals).map Comparison.reasons =
          .ok ["$.done: expected true, actual false"] := by
  intro expected v w
  let ignore : Pattern := .leaf (.marker (.validator "#ignore" false .ignore))
  let yes : Pattern := .leaf (.literal (.bool true))
  have hcompile : Matcher.initial.compile expected =
      .ok (.mapping [("id", ignore), ("tags", .sequence [ignore, yes]), ("done", yes)]) := rfl
  have hignore : ∀ v w, ignore.Agree v w := fun v w => .marker (.ignored rfl v w)
  have htags : (Pattern.sequence [ignore, yes]).Agree
      (.sequence [.string "new", .bool true]) (.sequence [.null, .bool true]) := by
    refine .sequence rfl ?_
    simp only [List.zip_cons_cons, List.zip_nil_left, List.forall_mem_cons]
    exact ⟨hignore _ _, .same yes _, nofun⟩
  have hagree : (Pattern.mapping [("id", ignore), ("tags", .sequence [ignore, yes]),
      ("done", yes)]).Agree v w := by
    apply Pattern.Agree.mapping
    · rfl
    · simp only [List.forall_mem_cons]
      exact ⟨nofun, fun _ => rfl, fun _ => rfl, nofun⟩
    · simp only [List.forall_mem_cons]
      refine ⟨fun v w _ _ => hignore v w, ?_, ?_, nofun⟩
      · rintro v w ⟨⟩ ⟨⟩
        exact htags
      · rintro v w ⟨⟩ ⟨⟩
        exact .same yes _
  refine ⟨_, hcompile, hagree, ?_⟩
  obtain ⟨c, d, hc, hd, hreasons⟩ :=
    ignored_places_are_hidden Matcher.initial expected _ hcompile v w hagree .equals (by simp)
  exact ⟨c, d, hc, hd, hreasons, rfl⟩

end DocMatch
