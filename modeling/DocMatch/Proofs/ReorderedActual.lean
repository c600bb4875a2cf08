import DocMatch.Proofs.PlainPatterns
import DocMatch.Proofs.Reordering
import DocMatch.Proofs.Verdict
/-!
Actual values that differ in order only.  With their keys and attributes shuffled they fail
at the same paths one after another, and with their items and child elements shuffled too
they deeply contain the same.
-/

namespace DocMatch

/-- A test of a value sees of a container only its kind. -/
theorem Validator.check_of_reordered (t : Validator) {shuffle : Shuffle} {v w : Value}
    (h : v.Reordered shuffle w) : t.check v = t.check w := by
  cases h with
  | leaf => rfl
  | sequence => cases t <;> rfl
  | mapping => cases t <;> rfl
  | element => cases t <;> rfl

theorem Value.Reordered.isNull_eq {shuffle : Shuffle} {v w : Value} (h : v.Reordered shuffle w) :
    v.isNull = w.isNull := by
  cases h <;> rfl

namespace Marker

/-- A marker finds the same wrong in the items of two sequences if it does one by one. -/
theorem flatMap_check_of_forall₂ {each : Marker} {items others : List Value}
    (h : List.Forall₂ (fun v w => each.check v = each.check w) items others) (i : Nat) :
    (items.zipIdx i).flatMap (fun (item, i) => (each.check item).map (MarkerFailure.within i)) =
      (others.zipIdx i).flatMap
        fun (item, i) => (each.check item).map (MarkerFailure.within i) := by
  induction h generalizing i with
  | nil => rfl
  | cons hcheck _ ih =>
      simp only [List.zipIdx_cons, List.flatMap_cons, hcheck, ih]

theorem isNull_sequence (isOptional : Bool) (items : List Value) :
    (isOptional && (Value.sequence items).isNull) = false :=
  Bool.and_false isOptional

/-- A marker finds the same wrong where only keys are shuffled. -/
theorem check_of_reordered : ∀ (m : Marker) {v w : Value},
    v.Reordered .keys w → m.check v = m.check w
  | .validator text isOptional t, v, w, h => by
      rw [check, check, h.isNull_eq, t.check_of_reordered h]
  | .sequence text isOptional size each, v, w, h => by
      cases h with
      | sequence parts order =>
          obtain rfl := order
          have hlength := parts.length_eq
          cases each with
          | none => simp only [check, isNull_sequence, hlength]
          | some each =>
              have hcheck := flatMap_check_of_forall₂
                (parts.imp fun _ _ h => each.check_of_reordered h) 0
              simp only [check, isNull_sequence, hlength, hcheck]
      | _ => rfl

/-- A sequence satisfies a marker for sequences if its size does and all its items satisfy
the marker for them. -/
theorem check_sequence_eq_nil_iff {text : String} {isOptional : Bool} {size : Option Nat}
    {each : Option Marker} {items : List Value} :
    (Marker.sequence text isOptional size each).check (.sequence items) = [] ↔
      size.all (· == items.length) = true ∧
        ∀ m, each = some m → ∀ item ∈ items, m.check item = [] := by
  cases each with
  | none => cases hsize : size.all (· == items.length) <;> simp [check, isNull_sequence, hsize]
  | some m =>
      have hitems : (∀ entry ∈ items.zipIdx, m.check entry.1 = []) ↔
          ∀ item ∈ items, m.check item = [] := by
        conv_rhs => rw [← List.zipIdx_map_fst 0 items]
        rw [List.forall_mem_map]
      cases hsize : size.all (· == items.length) with
      | false => simp [check, isNull_sequence, hsize]
      | true =>
          simp only [check, isNull_sequence, hsize, Bool.false_eq_true, if_false, if_true,
            List.flatMap_eq_nil_iff, List.map_eq_nil_iff, true_and, Option.some.injEq,
            forall_eq']
          exact hitems

/-- Whether a marker is satisfied does not depend on the order of items either. -/
theorem check_eq_nil_of_reordered {shuffle : Shuffle} : ∀ (m : Marker) {v w : Value},
    v.Reordered shuffle w → (m.check v = [] ↔ m.check w = [])
  | .validator text isOptional t, v, w, h => by
      rw [check, check, h.isNull_eq, t.check_of_reordered h]
  | .sequence text isOptional size each, v, w, h => by
      cases h with
      | sequence parts order =>
          rw [check_sequence_eq_nil_iff, check_sequence_eq_nil_iff,
            parts.length_eq.trans order.perm.length_eq]
          apply and_congr_right
          intro _
          apply forall₂_congr
          rintro m rfl
          simp only [← order.perm.mem_iff]
          exact forall_iff_of_forall₂ (parts.imp fun _ _ h => m.check_eq_nil_of_reordered h)
      | _ => rfl

end Marker

namespace Failure

/-- Whether two lists of failures have the same paths one after another. -/
def SamePaths (failures others : List Failure) : Prop :=
  failures.map Failure.path = others.map Failure.path

variable {failures others : List Failure}

theorem SamePaths.refl (failures : List Failure) : SamePaths failures failures := rfl

theorem SamePaths.append {rest rest' : List Failure} (h : SamePaths failures others)
    (hrest : SamePaths rest rest') : SamePaths (failures ++ rest) (others ++ rest') := by
  rw [SamePaths, List.map_append, List.map_append, h, hrest]

theorem SamePaths.below (h : SamePaths failures others) (place : Path) :
    SamePaths (failures.map (Failure.below place)) (others.map (Failure.below place)) := by
  have hmap : ∀ failures : List Failure, (failures.map (Failure.below place)).map Failure.path =
      (failures.map Failure.path).map (place ++ ·) := by
    intro failures
    rw [List.map_map, List.map_map]
    rfl
  rw [SamePaths, hmap, hmap, h]

theorem SamePaths.isEmpty_eq (h : SamePaths failures others) :
    failures.isEmpty = others.isEmpty := by
  rw [← List.isEmpty_map, h, List.isEmpty_map]

theorem SamePaths.eq_nil_iff (h : SamePaths failures others) : failures = [] ↔ others = [] := by
  rw [← List.isEmpty_iff, h.isEmpty_eq, List.isEmpty_iff]

end Failure

namespace Leaf

variable {shuffle : Shuffle} {l : Leaf} {mode : Mode} {v w : Value}

/-- A container is never of the kind of a plain literal. -/
theorem kind_ne_of_isPlain {expected : Value} (hl : (Leaf.literal expected).IsPlain)
    (hv : v.isContainer = true) : v.kind ≠ expected.kind := by
  intro hkind
  rw [IsPlain, Value.isContainer, ← hkind] at hl
  exact Bool.false_ne_true (hl.symm.trans hv)

theorem samePaths_of_reordered (hl : l.IsPlain) (h : v.Reordered .keys w) :
    Failure.SamePaths (l.failures mode v) (l.failures mode w) := by
  cases hv : v.isContainer with
  | false =>
      rw [h.eq_of_leaf hv]
      exact .refl _
  | true =>
      cases l with
      | marker m =>
          simp only [Failure.SamePaths, failures, markerFailures, m.check_of_reordered h,
            List.map_map]
          rfl
      | literal expected =>
          have hw : w.isContainer = true := h.isContainer_eq ▸ hv
          rw [failures, failures, if_neg (kind_ne_of_isPlain hl hv),
            if_neg (kind_ne_of_isPlain hl hw)]
          rfl

theorem fits_of_reordered (hl : l.IsPlain) (h : v.Reordered shuffle w) :
    l.Fits mode v ↔ l.Fits mode w := by
  cases hv : v.isContainer with
  | false => rw [h.eq_of_leaf hv]
  | true =>
      cases l with
      | marker m =>
          simp only [Fits, failures, markerFailures, List.map_eq_nil_iff]
          exact m.check_eq_nil_of_reordered h
      | literal expected =>
          have hw : w.isContainer = true := h.isContainer_eq ▸ hv
          simp [Fits, failures, kind_ne_of_isPlain hl hv, kind_ne_of_isPlain hl hw]

end Leaf

/-- The items of two lists that the expected ones judge alike have the same verdicts. -/
theorem verdictRows_of_forall₂ {ε α : Type} (verdict : ε → α → Bool) (expected : List ε)
    {items others : List α}
    (h : List.Forall₂ (fun a b => ∀ e ∈ expected, verdict e a = verdict e b) items others) :
    verdictRows verdict expected items = verdictRows verdict expected others := by
  refine List.map_congr_left fun e he => ?_
  induction h with
  | nil => rfl
  | cons hrow _ ih => rw [List.map_cons, List.map_cons, hrow e he, ih]

namespace ElementPattern

variable {shuffle : Shuffle} {mode : Mode} {e : ElementPattern} {actual other : Element}

theorem textValue_reordered (h : actual.Reordered shuffle other) :
    (textValue actual).Reordered shuffle (textValue other) := by
  rw [textValue, textValue, h.isLeaf_eq]
  split
  · obtain ⟨-, -, text_eq, -, -⟩ := h
    rw [text_eq]
    exact .refl _
  · exact .element h

theorem samePaths_of_whole (mismatches : List Mismatch) :
    Failure.SamePaths (mismatches.map (e.wholeFailure actual))
      (mismatches.map (e.wholeFailure other)) := by
  rw [Failure.SamePaths, List.map_map, List.map_map]
  rfl

/-- Attributes in another order fail at the same paths. -/
theorem samePaths_of_tag (e : ElementPattern) (mode : Mode) (hactual : actual.WellFormed)
    (h : actual.Reordered shuffle other) :
    Failure.SamePaths (e.tagFailures mode actual) (e.tagFailures mode other) := by
  obtain ⟨-, attributes, -, -, -⟩ := h
  obtain ⟨hdistinct, -⟩ := Element.wellFormed_iff.1 hactual
  have hget : ∀ name, Fields.get? name actual.attributes = Fields.get? name other.attributes :=
    Fields.get?_of_perm hdistinct attributes
  have hextra : (extraAttributes e.attributes actual.attributes).isEmpty =
      (extraAttributes e.attributes other.attributes).isEmpty := by
    rw [extraAttributes, extraAttributes, List.isEmpty_map, List.isEmpty_map,
      Fields.isEmpty_unexpected_of_perm (attributes.map Prod.fst)]
  have hattributes : attributeFailures e.attributes actual.attributes =
      attributeFailures e.attributes other.attributes := by
    simp only [attributeFailures, hget]
  rw [tagFailures, tagFailures, hattributes]
  refine .append ?_ (.refl _)
  cases hexact : mode.isExact with
  | false => exact .refl _
  | true =>
      simp only [if_true, hextra]
      split <;> rfl

theorem tagFits_of_reordered (hactual : actual.WellFormed) (h : actual.Reordered shuffle other) :
    e.TagFits mode actual ↔ e.TagFits mode other := by
  have htag := samePaths_of_tag e mode hactual h
  obtain ⟨name_eq, -, -, -, -⟩ := h
  rw [← tagFailures_eq_nil, ← tagFailures_eq_nil, name_eq, htag.eq_nil_iff]

/-- Child elements with the same names have the same paths. -/
theorem childPaths_of_forall₂ {items others : List Element}
    (h : List.Forall₂ (fun item other => item.name = other.name) items others)
    (seen : List String) : childPaths seen items = childPaths seen others := by
  induction h generalizing seen with
  | nil => rfl
  | cons hname _ ih => rw [childPaths, childPaths, hname, ih]

theorem samePaths_of_paired {children : List ElementPattern} {items others : List Element}
    (h : List.Forall₂ (fun item other => ∀ child ∈ children,
      Failure.SamePaths (child.failures .equals item) (child.failures .equals other)) items others)
    (places : List Path) :
    Failure.SamePaths (pairedFailures children items places)
      (pairedFailures children others places) := by
  induction children generalizing items others places with
  | nil => exact .refl _
  | cons child rest ih =>
      cases h with
      | nil => exact .refl _
      | cons hitem hrest =>
          cases places with
          | nil => exact .refl _
          | cons place places =>
              exact .append ((hitem child List.mem_cons_self).below place) <|
                ih (hrest.imp fun _ _ h other hother => h other (List.mem_cons_of_mem _ hother))
                  places

/-- The failures of two elements with the same name lie at the same paths if those of their
contents do. -/
theorem samePaths_of_content (hactual : actual.WellFormed) (h : actual.Reordered shuffle other)
    {content others : List Failure} (hcontent : Failure.SamePaths content others)
    (hfailures : e.failures mode actual =
      if actual.name ≠ e.name then [e.wholeFailure actual (.elementName e.name actual.name)]
      else e.tagFailures mode actual ++ content)
    (hothers : e.failures mode other =
      if other.name ≠ e.name then [e.wholeFailure other (.elementName e.name other.name)]
      else e.tagFailures mode other ++ others) :
    Failure.SamePaths (e.failures mode actual) (e.failures mode other) := by
  have htag := samePaths_of_tag e mode hactual h
  obtain ⟨name_eq, -, -, -, -⟩ := h
  rw [hfailures, hothers, name_eq]
  split
  · rfl
  · exact htag.append hcontent

/-- Elements whose keys are shuffled fail at the same paths one after another. -/
theorem samePaths_of_reordered (e : ElementPattern) :
    ∀ {mode : Mode} {actual other : Element}, e.Plain → actual.WellFormed →
      actual.Reordered .keys other →
        Failure.SamePaths (e.failures mode actual) (e.failures mode other) := by
  induction e using ElementPattern.induct with
  | leaf name attributes text =>
      rintro mode actual other ⟨htext⟩ hactual h
      exact samePaths_of_content hactual h
        (Leaf.samePaths_of_reordered htext (textValue_reordered h))
        (by rw [failures]) (by rw [failures])
  | branch name attributes children ih =>
      intro mode actual other hplain hactual h
      refine samePaths_of_content hactual h ?_ (by rw [failures]) (by rw [failures])
      obtain ⟨-, -, -, parts, order⟩ := h
      obtain rfl := order
      obtain ⟨-, hwell⟩ := Element.wellFormed_iff.1 hactual
      have hitems : List.Forall₂ (fun item other => ∀ child ∈ children, ∀ mode,
          Failure.SamePaths (child.failures mode item) (child.failures mode other))
          actual.childElements other.childElements :=
        ((List.forall₂_and_left _ _).2 ⟨hwell, parts⟩).imp
          fun item other h child hchild _ =>
            ih child hchild (hplain.child hchild) h.1 h.2
      have hplaces := childPaths_of_forall₂
        (parts.imp fun item other h => show item.name = other.name by cases h; assumption) []
      have hfits : fits mode.child children actual.childElements =
          fits mode.child children other.childElements := by
        rw [fits_eq_verdictRows, fits_eq_verdictRows]
        exact verdictRows_of_forall₂ _ _
          (hitems.imp fun _ _ h child hchild => (h child hchild _).isEmpty_eq)
      simp only [parts.length_eq, hplaces, hfits]
      split
      · split
        · rfl
        · exact samePaths_of_paired (hitems.imp fun _ _ h child hchild => h child hchild _) _
      · exact samePaths_of_whole _

end ElementPattern

theorem Mode.inner_of_isContainer_eq {v w : Value} (h : v.isContainer = w.isContainer)
    (mode : Mode) (p : Pattern) : mode.inner v p = mode.inner w p := by
  rw [inner, inner, h]

namespace Pattern

/-- Whether a pattern fails at the same paths in two values, in every mode, and is compared
with them in the same mode as a part. -/
structure FailsAlike (settings : Settings) (p : Pattern) (v w : Value) : Prop where
  isContainer_eq : v.isContainer = w.isContainer
  paths (mode : Mode) :
    Failure.SamePaths (p.failures settings mode v) (p.failures settings mode w)

variable {settings : Settings} {p : Pattern} {v w : Value}

theorem FailsAlike.refl (p : Pattern) (v : Value) : p.FailsAlike settings v v :=
  ⟨rfl, fun _ => .refl _⟩

theorem FailsAlike.inner (h : p.FailsAlike settings v w) (mode : Mode) :
    Failure.SamePaths (p.failures settings (mode.inner v p) v)
      (p.failures settings (mode.inner w p) w) := by
  rw [Mode.inner_of_isContainer_eq h.isContainer_eq]
  exact h.paths _

theorem samePaths_of_whole (mismatches : List Mismatch) :
    Failure.SamePaths (mismatches.map (p.wholeFailure v)) (mismatches.map (p.wholeFailure w)) := by
  rw [Failure.SamePaths, List.map_map, List.map_map]
  rfl

section Items

variable {expected : List Pattern} {items others : List Value}

theorem samePaths_of_paired
    (h : List.Forall₂ (fun v w => ∀ p ∈ expected, p.FailsAlike settings v w) items others)
    (i : Nat) :
    Failure.SamePaths (pairedFailures settings i expected items)
      (pairedFailures settings i expected others) := by
  induction expected generalizing items others i with
  | nil => exact .refl _
  | cons p rest ih =>
      cases h with
      | nil => exact .refl _
      | cons hitem hrest =>
          have hfirst := ((hitem p List.mem_cons_self).paths .equals).below [.index i]
          exact hfirst.append <|
            ih (hrest.imp fun _ _ h q hq => h q (List.mem_cons_of_mem _ hq)) (i + 1)

/-- Sequences whose items fail alike one by one do so as a whole. -/
theorem failsAlike_of_items
    (h : List.Forall₂ (fun v w => ∀ p ∈ expected, p.FailsAlike settings v w) items others) :
    (Pattern.sequence expected).FailsAlike settings (.sequence items) (.sequence others) := by
  refine ⟨rfl, fun mode => ?_⟩
  have hfits := verdictRows_of_forall₂
    (fun p item => (p.failures settings (mode.inner item p) item).isEmpty) expected
    (h.imp fun _ _ halike p hp => ((halike p hp).inner mode).isEmpty_eq)
  simp only [failures, Value.unfolded, fits_eq_verdictRows, h.length_eq, hfits]
  split
  · split
    · rfl
    · exact samePaths_of_paired h 0
  · exact samePaths_of_whole _

end Items

section Entries

variable {expected : Fields Pattern} {entries others : Fields Value}

/-- Entries whose values fail alike under each key do so together. -/
theorem samePaths_of_entries (mode : Mode)
    (h : ∀ entry ∈ expected, Option.Rel (entry.2.FailsAlike settings)
      (Fields.get? entry.1 entries) (Fields.get? entry.1 others)) :
    Failure.SamePaths (entryFailures settings mode expected entries)
      (entryFailures settings mode expected others) := by
  induction expected with
  | nil => exact .refl _
  | cons entry rest ih =>
      obtain ⟨key, p⟩ := entry
      rw [List.forall_mem_cons] at h
      obtain ⟨hentry, hrest⟩ := h
      rw [entryFailures, entryFailures]
      refine .append ?_ (ih hrest)
      revert hentry
      generalize Fields.get? key entries = found
      generalize Fields.get? key others = foundOther
      rintro (halike | _)
      · exact (halike.inner mode).below _
      · exact .refl _

theorem anyEntryFits_of_entries
    (h : ∀ entry ∈ expected, Option.Rel (entry.2.FailsAlike settings)
      (Fields.get? entry.1 entries) (Fields.get? entry.1 others)) :
    anyEntryFits settings expected entries = anyEntryFits settings expected others := by
  induction expected with
  | nil => rfl
  | cons entry rest ih =>
      obtain ⟨key, p⟩ := entry
      rw [List.forall_mem_cons] at h
      obtain ⟨hentry, hrest⟩ := h
      rw [anyEntryFits, anyEntryFits, ih hrest]
      revert hentry
      generalize Fields.get? key entries = found
      generalize Fields.get? key others = foundOther
      rintro (halike | _)
      · exact congrArg (· || _) (halike.paths .equals).isEmpty_eq
      · rfl

/-- Mappings whose values fail alike under each key do so as a whole. -/
theorem failsAlike_of_entries (hkeys : entries.keys.Perm others.keys)
    (h : ∀ entry ∈ expected, Option.Rel (entry.2.FailsAlike settings)
      (Fields.get? entry.1 entries) (Fields.get? entry.1 others)) :
    (Pattern.mapping expected).FailsAlike settings (.mapping entries) (.mapping others) := by
  refine ⟨rfl, fun mode => ?_⟩
  have hextra : (extraEntries expected entries).isEmpty =
      (extraEntries expected others).isEmpty := Fields.isEmpty_unexpected_of_perm hkeys
  simp only [failures, Value.unfolded, anyEntryFits_of_entries h]
  refine .append ?_ ?_
  · cases mode.isExact with
    | false => rfl
    | true =>
        simp only [if_true, hextra]
        split <;> rfl
  · split
    · split <;> rfl
    · exact samePaths_of_entries mode h

end Entries

/-- Values whose keys are shuffled fail at the same paths one after another. -/
theorem failsAlike_of_reordered (p : Pattern) :
    ∀ {v w : Value}, p.Plain → v.WellFormed → v.Reordered .keys w → p.FailsAlike settings v w := by
  induction p using Pattern.induct with
  | leaf l =>
      rintro v w ⟨hl⟩ _ h
      refine ⟨h.isContainer_eq, fun mode => ?_⟩
      rw [failures, failures]
      exact Leaf.samePaths_of_reordered hl h
  | sequence expected ih =>
      intro v w hplain hv h
      cases h with
      | leaf => exact .refl _ _
      | sequence parts order =>
          obtain rfl := order
          have hwell := Value.wellFormed_sequence_iff.1 hv
          exact failsAlike_of_items <| ((List.forall₂_and_left _ _).2 ⟨hwell, parts⟩).imp
            fun _ _ h p hp => ih p hp (hplain.item hp) h.1 h.2
      | _ => exact ⟨rfl, fun mode => by simp only [failures, Value.unfolded]; rfl⟩
  | mapping expected ih =>
      intro v w hplain hv h
      cases h with
      | leaf => exact .refl _ _
      | mapping parts order =>
          obtain ⟨hdistinct, hvalues⟩ := Value.wellFormed_mapping_iff.1 hv
          have hkeys := Fields.keys_perm_of_shuffled
            (parts.imp fun _ _ h => ⟨h.key_eq, h.value⟩) order
          refine failsAlike_of_entries hkeys fun entry hentry => ?_
          have hparts := ((List.forall₂_and_left _ _).2 ⟨hvalues, parts⟩).imp
            fun _ _ h => And.intro h.2.key_eq
              (ih entry hentry (hplain.entry hentry) h.1 h.2.value)
          exact Fields.get?_of_shuffled hdistinct hparts order entry.1
      | _ => exact ⟨rfl, fun mode => by simp only [failures, Value.unfolded]; rfl⟩
  | element e =>
      intro v w hplain hv h
      cases h with
      | leaf => exact .refl _ _
      | element h => exact ⟨rfl, fun mode => e.samePaths_of_reordered hplain.inside hv h⟩
      | _ => exact ⟨rfl, fun mode => by simp only [failures, Value.unfolded]; rfl⟩

end Pattern

namespace ElementPattern

/-- Deep containment of elements does not depend on the order of child elements. -/
theorem fits_deep_of_reordered {shuffle : Shuffle} (e : ElementPattern) :
    ∀ {actual other : Element}, e.Plain → actual.WellFormed → actual.Reordered shuffle other →
      (e.Fits .containsDeep actual ↔ e.Fits .containsDeep other) := by
  induction e using ElementPattern.induct with
  | leaf name attributes text =>
      rintro actual other ⟨htext⟩ hactual h
      rw [fits_leaf_iff, fits_leaf_iff, tagFits_of_reordered hactual h,
        Leaf.fits_of_reordered htext (textValue_reordered h)]
  | branch name attributes children ih =>
      intro actual other hplain hactual h
      rw [fits_branch_iff (by simp) (by simp), fits_branch_iff (by simp) (by simp),
        tagFits_of_reordered hactual h]
      obtain ⟨-, -, -, parts, order⟩ := h
      obtain ⟨-, hwell⟩ := Element.wellFormed_iff.1 hactual
      have hplaces := Assignment.embeds_iff_of_actual
        (fun child item => ElementPattern.Fits .containsDeep child item) children
        ((List.forall₂_and_left _ _).2 ⟨hwell, parts⟩) order.perm
        fun child hchild _ _ h => ih child hchild (hplain.child hchild) h.1 h.2
      rw [hplaces]
      simp

end ElementPattern

namespace Fields

/-- Fields with values under each key that fit alike fit alike. -/
theorem eachFits_of_rel {α ε : Type} (mayLack : ε → Prop) (fits : ε → α → Prop)
    (expected : Fields ε) {actual others : Fields α}
    (h : ∀ entry ∈ expected, Option.Rel (fun v w => fits entry.2 v ↔ fits entry.2 w)
      (get? entry.1 actual) (get? entry.1 others)) :
    EachFits mayLack fits expected actual ↔ EachFits mayLack fits expected others := by
  refine forall₂_congr fun entry hentry => ?_
  have hrel := h entry hentry
  rw [EntryFits, EntryFits]
  revert hrel
  generalize get? entry.1 actual = found
  generalize get? entry.1 others = foundOther
  rintro (hiff | _)
  · exact hiff
  · exact Iff.rfl

end Fields

namespace Pattern

variable {settings : Settings} {shuffle : Shuffle}

/-- Deep containment does not depend on the order of items and child elements. -/
theorem fits_deep_of_reordered (p : Pattern) :
    ∀ {v w : Value}, p.Plain → v.WellFormed → v.Reordered shuffle w →
      (p.Fits settings .containsDeep v ↔ p.Fits settings .containsDeep w) := by
  -- a part is compared in the mode for parts, where a leaf stays as it is
  have hinner : ∀ {p : Pattern} {v w : Value}, v.Reordered shuffle w →
      (p.Fits settings .containsDeep v ↔ p.Fits settings .containsDeep w) →
        (p.Fits settings (Mode.inner .containsDeep v p) v ↔
          p.Fits settings (Mode.inner .containsDeep w p) w) := by
    intro p v w h hdeep
    rw [Mode.inner_of_isContainer_eq h.isContainer_eq, Mode.inner, ← h.isContainer_eq]
    cases hv : v.isContainer with
    | true => simpa using hdeep
    | false => rw [h.eq_of_leaf hv]
  induction p using Pattern.induct with
  | leaf l =>
      rintro v w ⟨hl⟩ _ h
      rw [fits_leaf, fits_leaf, Leaf.fits_of_reordered hl h]
  | sequence expected ih =>
      intro v w hplain hv h
      cases h with
      | leaf => exact Iff.rfl
      | sequence parts order =>
          rw [fits_sequence_iff (by simp) (by simp), fits_sequence_iff (by simp) (by simp)]
          have hplaces := Assignment.embeds_iff_of_actual
            (fun p item => p.Fits settings (Mode.inner .containsDeep item p) item) expected
            ((List.forall₂_and_left _ _).2 ⟨Value.wellFormed_sequence_iff.1 hv, parts⟩) order.perm
            fun p hp _ _ h => hinner h.2 (ih p hp (hplain.item hp) h.1 h.2)
          simpa [Value.unfolded] using hplaces
      | _ => simp [Fits, failures, Value.unfolded]
  | mapping expected ih =>
      intro v w hplain hv h
      cases h with
      | leaf => exact Iff.rfl
      | mapping parts order =>
          obtain ⟨hdistinct, hvalues⟩ := Value.wellFormed_mapping_iff.1 hv
          rw [fits_mapping_iff (by simp), fits_mapping_iff (by simp)]
          have hentries := Fields.eachFits_of_rel (·.allowsAbsent = true)
            (fun p v => p.Fits settings (Mode.inner .containsDeep v p) v) expected
            fun entry hentry => Fields.get?_of_shuffled hdistinct
              (((List.forall₂_and_left _ _).2 ⟨hvalues, parts⟩).imp fun _ _ h =>
                ⟨h.2.key_eq, hinner h.2.value
                  (ih entry hentry (hplain.entry hentry) h.1 h.2.value)⟩) order entry.1
          simpa [Value.unfolded, Mode.isExact] using hentries
      | _ => simp [Fits, failures, Value.unfolded]
  | element e =>
      intro v w hplain hv h
      cases h with
      | leaf => exact Iff.rfl
      | element h =>
          simpa [fits_element_iff, Value.unfolded] using e.fits_deep_of_reordered hplain.inside hv h
      | _ => simp [Fits, failures, Value.unfolded]

/-- Where order is disregarded, that of the items of a sequence is. -/
theorem fits_of_perm {mode : Mode} (hmode : mode ≠ .equals) {p : Pattern} (hp : p.Plain)
    {items others : List Value} (h : items.Perm others) :
    p.Fits settings mode (.sequence items) ↔ p.Fits settings mode (.sequence others) := by
  cases hp with
  | leaf hl =>
      rw [fits_leaf, fits_leaf]
      have hreordered : (Value.sequence items).Reordered .parts (.sequence others) :=
        .sequence (List.forall₂_same.2 fun item _ => .refl item) h
      exact Leaf.fits_of_reordered hl hreordered
  | @sequence expected hexpected =>
      by_cases hany : mode = .containsAny
      · subst hany
        simp [fits_sequence_any_iff, Value.unfolded, h.mem_iff]
      · have hplaces := Assignment.embeds_iff_of_actual
          (fun p item => p.Fits settings (mode.inner item p) item) expected
          (List.forall₂_same.2 fun _ _ => rfl) h fun _ _ _ _ heq => heq ▸ Iff.rfl
        simp [fits_sequence_iff hmode hany, Value.unfolded, h.length_eq, hplaces]
  | mapping => simp [Fits, failures, Value.unfolded]
  | element => simp [Fits, failures, Value.unfolded]

end Pattern

end DocMatch
