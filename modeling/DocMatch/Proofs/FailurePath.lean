import DocMatch.Proofs.Compiled
import DocMatch.Proofs.Fields
import DocMatch.Proofs.Places
import DocMatch.Proofs.Walk
/-!
Where failures lie.  The path of every failure leads, in the actual document, to the
value that the failure reports; a missing key is reported at the mapping or element
that lacks it.
-/

namespace DocMatch

/-- Whether the path of a failure leads to the reported value.  Of an element without
child elements the text may be reported instead; what is missing has to be a key of a
mapping or of an element, and not to be there. -/
def Failure.LeadsInto (f : Failure) (root : Value) : Prop :=
  match f.actual with
  | some v =>
      root.get? f.path = some v ∨
        ∃ e, root.get? f.path = some (.element e) ∧ e.isLeaf = true ∧ v = .ofString? e.text?
  | none =>
      ∃ container key, root.get? f.path = some container ∧
        (container.kind = .mapping ∨ container.kind = .element) ∧
        f.mismatch = .missingKey key ∧ root.get? (f.path ++ [.key key]) = none

namespace Failure

variable {f : Failure} {root part : Value}

/-- A failure of the value itself leads into it. -/
theorem leadsInto_of_path_nil (hpath : f.path = []) (hactual : f.actual = some root) :
    f.LeadsInto root := by
  rw [LeadsInto, hactual, hpath]
  exact Or.inl rfl

/-- A failure of a part leads into the whole, if keys are found from the whole below the
place of the part where they are found from the part. -/
theorem LeadsInto.below (h : f.LeadsInto part) {place : Path}
    (hget : ∀ keys : List String, root.get? (place ++ (f.path ++ keys.map .key)) =
      part.get? (f.path ++ keys.map .key)) : (f.below place).LeadsInto root := by
  have hself : root.get? (place ++ f.path) = part.get? f.path := by
    simpa using hget []
  rw [LeadsInto] at h ⊢
  rw [Failure.below]
  cases hactual : f.actual with
  | some v =>
      rw [hactual] at h
      simpa only [hself] using h
  | none =>
      rw [hactual] at h
      obtain ⟨container, key, hcontainer, hkind, hmismatch, hmissing⟩ := h
      refine ⟨container, key, hself.trans hcontainer, hkind, hmismatch, ?_⟩
      rw [List.append_assoc]
      exact (hget [key]).trans hmissing

end Failure

namespace Marker

/-- A check fails at the value itself, or in the check of one of its items. -/
theorem mem_check_cases {m : Marker} {v : Value} {f : MarkerFailure} (hf : f ∈ m.check v) :
    f.indexes = [] ∨
      ∃ text isOptional size each items i item g,
        m = .sequence text isOptional size (some each) ∧ v = .sequence items ∧
          items[i]? = some item ∧ g ∈ each.check item ∧ f = g.within i := by
  cases m with
  | validator text isOptional test =>
      rw [check, List.mem_ite_nil_left] at hf
      obtain ⟨message, -, rfl⟩ := List.mem_map.1 hf.2
      exact Or.inl rfl
  | sequence text isOptional size each =>
      cases v with
      | sequence items =>
          cases each with
          | none =>
              rw [check, List.mem_ite_nil_left, List.mem_ite_nil_left, List.mem_singleton] at hf
              exact Or.inl (hf.2.2 ▸ rfl)
          | some each =>
              rw [check, List.mem_ite_nil_left] at hf
              obtain ⟨-, hf⟩ := hf
              split at hf
              · obtain ⟨⟨item, i⟩, hitem, hmem⟩ := List.mem_flatMap.1 hf
                obtain ⟨g, hg, rfl⟩ := List.mem_map.1 hmem
                have hget : items[i]? = some item := List.mem_zipIdx_iff_getElem?.1 hitem
                exact Or.inr ⟨text, isOptional, size, each, items, i, item, g, rfl, rfl, hget, hg,
                  rfl⟩
              · exact Or.inl (List.mem_singleton.1 hf ▸ rfl)
      | _ =>
          simp only [check, List.mem_ite_nil_left, List.mem_singleton] at hf
          exact Or.inl (hf.2 ▸ rfl)

/-- The indexes of a failed check lead to an item. -/
theorem exists_get?_of_mem_check (m : Marker) {v : Value} {f : MarkerFailure}
    (hf : f ∈ m.check v) : ∃ w, v.get? (f.indexes.map .index) = some w := by
  rcases mem_check_cases hf with hnil |
    ⟨text, isOptional, size, each, items, i, item, g, hm, hv, hitem, hg, hfail⟩
  · exact ⟨v, by rw [hnil]; rfl⟩
  · obtain ⟨w, hw⟩ := exists_get?_of_mem_check each hg
    refine ⟨w, ?_⟩
    rw [hv, hfail, MarkerFailure.within, List.map_cons, Value.get?_item hitem, hw]
termination_by m
decreasing_by
  subst hm
  decreasing_tactic

/-- Only checks of the items of a sequence fail at an index. -/
theorem indexes_eq_nil {m : Marker} {v : Value} {f : MarkerFailure} (hf : f ∈ m.check v)
    (hv : v.kind ≠ .sequence) : f.indexes = [] := by
  rcases mem_check_cases hf with hnil | ⟨_, _, _, _, items, _, _, _, _, rfl, _⟩
  · exact hnil
  · exact absurd rfl hv

end Marker

namespace Leaf

variable {l : Leaf} {mode : Mode} {v : Value} {f : Failure}

theorem failures_leadInto (hf : f ∈ l.failures mode v) : f.LeadsInto v := by
  cases l with
  | marker m =>
      obtain ⟨g, hg, rfl⟩ := List.mem_map.1 hf
      obtain ⟨w, hw⟩ := m.exists_get?_of_mem_check hg
      rw [Failure.LeadsInto]
      simp only [hw]
      exact Or.inl trivial
  | literal expected =>
      rw [failures] at hf
      split at hf
      · obtain ⟨mismatch, -, rfl⟩ := List.mem_map.1 hf
        exact Failure.leadsInto_of_path_nil rfl rfl
      · obtain rfl := List.mem_singleton.1 hf
        exact Failure.leadsInto_of_path_nil rfl rfl

/-- Only in a sequence the failures of a leaf lie below the value itself. -/
theorem path_and_actual (hf : f ∈ l.failures mode v) (hv : v.kind ≠ .sequence) :
    f.path = [] ∧ f.actual = some v := by
  cases l with
  | marker m =>
      obtain ⟨g, hg, rfl⟩ := List.mem_map.1 hf
      simp [Marker.indexes_eq_nil hg hv, Value.get?]
  | literal expected =>
      rw [failures] at hf
      split at hf
      · obtain ⟨mismatch, -, rfl⟩ := List.mem_map.1 hf
        exact ⟨rfl, rfl⟩
      · exact List.mem_singleton.1 hf ▸ ⟨rfl, rfl⟩

theorem mem_absentFailures {key : String} (hf : f ∈ l.absentFailures key) :
    f = ⟨[], .missingKey key, none, l.toValue⟩ := by
  rw [absentFailures, List.mem_ite_nil_left] at hf
  exact List.mem_singleton.1 hf.2

end Leaf

/-- A missing key is reported at the container that lacks it. -/
theorem Failure.leadsInto_of_missing {f : Failure} {root : Value} {key : String} {expected : Value}
    (hf : f = ⟨[], .missingKey key, none, expected⟩)
    (hkind : root.kind = .mapping ∨ root.kind = .element) (hmissing : root.get? [.key key] = none) :
    f.LeadsInto root := by
  subst hf
  exact ⟨root, key, rfl, hkind, rfl, hmissing⟩

/-- Whether a failure of an element leads into it.  Its path does not start with an index,
which would be read as the number of the element. -/
structure Failure.LiesIn (f : Failure) (actual : Element) : Prop where
  leadsInto : f.LeadsInto (.element actual)
  no_index_first : ¬ f.path.StartsWithIndex

theorem Failure.liesIn_of_path_nil {f : Failure} {actual : Element} (hpath : f.path = [])
    (h : f.LeadsInto (.element actual)) : f.LiesIn actual := by
  refine ⟨h, ?_⟩
  rintro ⟨n, rest, hindex⟩
  rw [hpath] at hindex
  cases hindex

namespace ElementPattern

variable {mode : Mode} {e : ElementPattern} {actual : Element} {f : Failure}

theorem wholeFailure_liesIn (m : Mismatch) : (e.wholeFailure actual m).LiesIn actual :=
  Failure.liesIn_of_path_nil rfl (Failure.leadsInto_of_path_nil rfl rfl)

theorem attributeFailures_liesIn {expected : Fields Leaf}
    (hf : f ∈ attributeFailures expected actual.attributes) : f.LiesIn actual := by
  obtain ⟨⟨name, l⟩, -, hmem⟩ := List.mem_flatMap.1 hf
  have hselect := actual.select?_attribute name
  cases hget : Fields.get? name actual.attributes with
  | none =>
      simp only [hget] at hmem hselect
      have hmissing := Leaf.mem_absentFailures hmem
      apply Failure.liesIn_of_path_nil
      · rw [hmissing]
      · exact Failure.leadsInto_of_missing hmissing (Or.inr rfl) (hselect [])
  | some s =>
      simp only [hget] at hmem hselect
      obtain ⟨g, hg, rfl⟩ := List.mem_map.1 hmem
      refine ⟨(Leaf.failures_leadInto hg).below fun keys => ?_, ?_⟩
      · rw [(Leaf.path_and_actual hg (by simp [Value.kind])).1, Value.get?_element]
        cases keys with
        | nil => exact hselect []
        | cons key keys => exact hselect _
      · rintro ⟨n, rest, h⟩
        cases h

theorem tagFailures_liesIn (hf : f ∈ e.tagFailures mode actual) : f.LiesIn actual := by
  rw [tagFailures, List.mem_append, List.mem_ite_nil_left, List.mem_singleton] at hf
  rcases hf with ⟨-, rfl⟩ | hf
  · exact wholeFailure_liesIn _
  · exact attributeFailures_liesIn hf

/-- A failure of the text of an element lies at the element. -/
theorem textFailures_liesIn {text : Leaf} (hf : f ∈ text.failures .equals (textValue actual)) :
    f.LiesIn actual := by
  have hkind : (textValue actual).kind ≠ .sequence := by
    rw [textValue]
    cases actual.isLeaf <;> cases actual.text? <;> simp [Value.ofString?, Value.kind]
  obtain ⟨hpath, hactual⟩ := Leaf.path_and_actual hf hkind
  apply Failure.liesIn_of_path_nil hpath
  cases hleaf : actual.isLeaf with
  | true =>
      rw [textValue, if_pos hleaf] at hactual
      rw [Failure.LeadsInto, hactual, hpath]
      exact Or.inr ⟨actual, rfl, hleaf, rfl⟩
  | false =>
      rw [textValue, if_neg (by simp [hleaf])] at hactual
      exact Failure.leadsInto_of_path_nil hpath hactual

/-- A failure of child elements in order is one of a child element, below its path. -/
theorem mem_pairedFailures {children : List ElementPattern} {items : List Element}
    {places : List Path} (hf : f ∈ pairedFailures children items places) :
    ∃ (n : Nat) (child : ElementPattern) (item : Element) (place : Path) (g : Failure),
      child ∈ children ∧ items[n]? = some item ∧ places[n]? = some place ∧
        g ∈ child.failures .equals item ∧ f = g.below place := by
  induction children generalizing items places with
  | nil =>
      simp only [pairedFailures] at hf
      cases hf
  | cons child rest ih =>
      cases items with
      | nil =>
          simp only [pairedFailures] at hf
          cases hf
      | cons item items =>
          cases places with
          | nil =>
              simp only [pairedFailures] at hf
              cases hf
          | cons place places =>
              rw [pairedFailures, List.mem_append] at hf
              rcases hf with hf | hf
              · obtain ⟨g, hg, rfl⟩ := List.mem_map.1 hf
                exact ⟨0, child, item, place, g, List.mem_cons_self, rfl, rfl, hg, rfl⟩
              · obtain ⟨n, child', item', place', g, hchild, hitem, hplace, hg, hfail⟩ := ih hf
                exact ⟨n + 1, child', item', place', g, List.mem_cons_of_mem _ hchild, hitem,
                  hplace, hg, hfail⟩

theorem startsWithKey_of_mem_childPaths {seen : List String} {items : List Element} {place : Path}
    (hplace : place ∈ childPaths seen items) : ∃ key rest, place = .key key :: rest := by
  induction items generalizing seen with
  | nil => cases hplace
  | cons item items ih =>
      rw [childPaths, List.mem_cons] at hplace
      rcases hplace with rfl | hplace
      · split
        · exact ⟨_, _, rfl⟩
        · exact ⟨_, _, rfl⟩
      · exact ih hplace

/-- A failure of a child element is one of the whole, below the path of the child. -/
theorem liesIn_of_child {g : Failure} {item : Element} (h : g.LiesIn item)
    (hplain : item.HasPlainName) {n : Nat} {place : Path}
    (hitem : actual.childElements[n]? = some item)
    (hplace : (childPaths [] actual.childElements)[n]? = some place) :
    (g.below place).LiesIn actual := by
  constructor
  · apply h.leadsInto.below
    intro keys
    rw [Value.get?_element, Value.get?_element]
    apply select?_childPaths (List.nil_append _).symm (by simp) hitem hplace hplain
    exact fun hindex => h.no_index_first (Path.StartsWithIndex.of_append_keys hindex)
  · obtain ⟨key, rest, rfl⟩ := startsWithKey_of_mem_childPaths (List.mem_of_getElem? hplace)
    rintro ⟨i, rest, hindex⟩
    cases hindex

/-- The failures of an element with child elements are its own, those of its tag, or those
of its child elements in order. -/
theorem mem_failures_branch_cases {name : String} {attributes : Fields Leaf}
    {children : List ElementPattern}
    (hf : f ∈ (ElementPattern.branch name attributes children).failures mode actual) :
    (∃ m, f = (ElementPattern.branch name attributes children).wholeFailure actual m) ∨
      f ∈ (ElementPattern.branch name attributes children).tagFailures mode actual ∨
      f ∈ pairedFailures children actual.childElements (childPaths [] actual.childElements) := by
  rw [failures] at hf
  split at hf
  · exact Or.inl ⟨_, List.mem_singleton.1 hf⟩
  · rcases List.mem_append.1 hf with hf | hf
    · exact Or.inr (Or.inl hf)
    · by_cases hmode : mode = .equals
      · simp only [if_pos hmode] at hf
        split at hf
        · exact Or.inl ⟨_, List.mem_singleton.1 hf⟩
        · exact Or.inr (Or.inr hf)
      · simp only [if_neg hmode] at hf
        obtain ⟨m, -, rfl⟩ := List.mem_map.1 hf
        exact Or.inl ⟨m, rfl⟩

/-- Every failure of an element leads into it. -/
theorem failures_liesIn (e : ElementPattern) :
    ∀ {mode : Mode} {actual : Element} {f : Failure},
      actual.Everywhere Element.HasPlainName → f ∈ e.failures mode actual → f.LiesIn actual := by
  induction e using ElementPattern.induct with
  | leaf name attributes text =>
      intro mode actual f _ hf
      rw [failures] at hf
      split at hf
      · exact List.mem_singleton.1 hf ▸ wholeFailure_liesIn _
      · rcases List.mem_append.1 hf with hf | hf
        · exact tagFailures_liesIn hf
        · exact textFailures_liesIn hf
  | branch name attributes children ih =>
      intro mode actual f hplain hf
      rcases mem_failures_branch_cases hf with ⟨m, rfl⟩ | hf | hf
      · exact wholeFailure_liesIn m
      · exact tagFailures_liesIn hf
      · obtain ⟨n, child, item, place, g, hchild, hitem, hplace, hg, rfl⟩ := mem_pairedFailures hf
        obtain ⟨-, hbelow⟩ := Element.everywhere_iff.1 hplain
        have hplainItem := hbelow item (List.mem_of_getElem? hitem)
        obtain ⟨hname, -⟩ := Element.everywhere_iff.1 hplainItem
        exact liesIn_of_child (ih child hchild hplainItem hg) hname hitem hplace

end ElementPattern

namespace Pattern

variable {settings : Settings} {mode : Mode} {p : Pattern} {actual : Value} {f : Failure}

theorem wholeFailure_leadsInto (m : Mismatch) : (p.wholeFailure actual m).LeadsInto actual :=
  Failure.leadsInto_of_path_nil rfl rfl

theorem mem_absentFailures {key : String} (hf : f ∈ p.absentFailures key) :
    f = ⟨[], .missingKey key, none, p.toValue⟩ := by
  rw [absentFailures, List.mem_ite_nil_left] at hf
  exact List.mem_singleton.1 hf.2

/-- A failure of items in order is one of an item, below its index. -/
theorem mem_pairedFailures {expected : List Pattern} {items : List Value} {i : Nat}
    (hf : f ∈ pairedFailures settings i expected items) :
    ∃ (n : Nat) (p : Pattern) (item : Value) (g : Failure),
      p ∈ expected ∧ items[n]? = some item ∧ g ∈ p.failures settings .equals item ∧
        f = g.below [.index (i + n)] := by
  induction expected generalizing i items with
  | nil =>
      simp only [pairedFailures] at hf
      cases hf
  | cons p rest ih =>
      cases items with
      | nil =>
          simp only [pairedFailures] at hf
          cases hf
      | cons item items =>
          rw [pairedFailures, List.mem_append] at hf
          rcases hf with hf | hf
          · obtain ⟨g, hg, rfl⟩ := List.mem_map.1 hf
            exact ⟨0, p, item, g, List.mem_cons_self, rfl, hg, rfl⟩
          · obtain ⟨n, p', item', g, hp, hitem, hg, rfl⟩ := ih hf
            refine ⟨n + 1, p', item', g, List.mem_cons_of_mem _ hp, hitem, hg, ?_⟩
            rw [Nat.add_assoc, Nat.add_comm 1]

/-- A failure of entries is that of a missing key, or one of the value under a key. -/
theorem mem_entryFailures {expected : Fields Pattern} {entries : Fields Value}
    (hf : f ∈ entryFailures settings mode expected entries) :
    ∃ key p, (key, p) ∈ expected ∧
      (Fields.get? key entries = none ∧ f ∈ p.absentFailures key ∨
        ∃ v g, Fields.get? key entries = some v ∧ g ∈ p.failures settings (mode.inner v p) v ∧
          f = g.below [.key key]) := by
  induction expected with
  | nil =>
      simp only [entryFailures] at hf
      cases hf
  | cons entry rest ih =>
      obtain ⟨key, p⟩ := entry
      rw [entryFailures, List.mem_append] at hf
      rcases hf with hf | hf
      · refine ⟨key, p, List.mem_cons_self, ?_⟩
        cases hget : Fields.get? key entries with
        | none =>
            simp only [hget] at hf
            exact Or.inl ⟨rfl, hf⟩
        | some v =>
            simp only [hget] at hf
            obtain ⟨g, hg, rfl⟩ := List.mem_map.1 hf
            exact Or.inr ⟨v, g, rfl, hg, rfl⟩
      · obtain ⟨key', p', hentry, hcases⟩ := ih hf
        exact ⟨key', p', List.mem_cons_of_mem _ hentry, hcases⟩

/-- The failures of a sequence are its own, or those of its items in order. -/
theorem mem_failures_sequence_cases {expected : List Pattern}
    (hf : f ∈ (Pattern.sequence expected).failures settings mode actual)
    (hsettled : actual.unfolded settings = actual) :
    (∃ m, f = (Pattern.sequence expected).wholeFailure actual m) ∨
      ∃ items, actual = .sequence items ∧ f ∈ pairedFailures settings 0 expected items := by
  rw [failures, hsettled] at hf
  cases actual with
  | sequence items =>
      by_cases hmode : mode = .equals
      · simp only [if_pos hmode] at hf
        split at hf
        · exact Or.inl ⟨_, List.mem_singleton.1 hf⟩
        · exact Or.inr ⟨items, rfl, hf⟩
      · simp only [if_neg hmode] at hf
        obtain ⟨m, -, rfl⟩ := List.mem_map.1 hf
        exact Or.inl ⟨m, rfl⟩
  | _ => exact Or.inl ⟨_, List.mem_singleton.1 hf⟩

/-- The failures of a mapping are its own, or those of its entries. -/
theorem mem_failures_mapping_cases {expected : Fields Pattern}
    (hf : f ∈ (Pattern.mapping expected).failures settings mode actual)
    (hsettled : actual.unfolded settings = actual) :
    (∃ m, f = (Pattern.mapping expected).wholeFailure actual m) ∨
      ∃ entries, actual = .mapping entries ∧ f ∈ entryFailures settings mode expected entries := by
  rw [failures, hsettled] at hf
  cases actual with
  | mapping entries =>
      rcases List.mem_append.1 hf with hf | hf
      · rw [List.mem_ite_nil_left, List.mem_singleton] at hf
        exact Or.inl ⟨_, hf.2⟩
      · split at hf
        · rw [List.mem_ite_nil_left, List.mem_singleton] at hf
          exact Or.inl ⟨_, hf.2⟩
        · exact Or.inr ⟨entries, rfl, hf⟩
  | _ => exact Or.inl ⟨_, List.mem_singleton.1 hf⟩

/-- Every failure of a value leads into it. -/
theorem failures_leadInto (p : Pattern) :
    ∀ {mode : Mode} {actual : Value} {f : Failure}, actual.Settled settings →
      actual.HasPlainNames → f ∈ p.failures settings mode actual → f.LeadsInto actual := by
  induction p using Pattern.induct with
  | leaf l =>
      intro mode actual f _ _ hf
      rw [failures] at hf
      exact Leaf.failures_leadInto hf
  | sequence expected ih =>
      intro mode actual f hsettled hplain hf
      rcases mem_failures_sequence_cases hf hsettled.unfolded with
        ⟨m, rfl⟩ | ⟨items, rfl, hpaired⟩
      · exact wholeFailure_leadsInto m
      · obtain ⟨n, p, item, g, hp, hitem, hg, rfl⟩ := mem_pairedFailures hpaired
        have hmem := List.mem_of_getElem? hitem
        have hleads := ih p hp (hsettled.item hmem) (hplain.item hmem) hg
        rw [Nat.zero_add]
        apply hleads.below
        intro keys
        exact Value.get?_item hitem _
  | mapping expected ih =>
      intro mode actual f hsettled hplain hf
      rcases mem_failures_mapping_cases hf hsettled.unfolded with
        ⟨m, rfl⟩ | ⟨entries, rfl, hentries⟩
      · exact wholeFailure_leadsInto m
      · obtain ⟨key, p, hentry, ⟨hget, habsent⟩ | ⟨v, g, hget, hg, rfl⟩⟩ :=
          mem_entryFailures hentries
        · refine Failure.leadsInto_of_missing (mem_absentFailures habsent) (Or.inl rfl) ?_
          rw [Value.get?, hget]
          rfl
        · have hmem := Fields.mem_of_get? hget
          have hleads := ih (key, p) hentry (hsettled.entry hmem) (hplain.entry hmem) hg
          apply hleads.below
          intro keys
          exact Value.get?_entry hget _
  | element e =>
      intro mode actual f hsettled hplain hf
      rw [failures, hsettled.unfolded] at hf
      cases actual with
      | element actual =>
          exact (e.failures_liesIn (hplain.self actual rfl) hf).leadsInto
      | _ => exact List.mem_singleton.1 hf ▸ wholeFailure_leadsInto _

end Pattern

namespace Matcher

variable {m : Matcher} {mode : Mode} {p : Pattern} {actual : Value} {f : Failure}

theorem mem_failures_cases (hf : f ∈ m.failures mode p actual) :
    f ∈ p.failures m.settings mode.positive actual ∨ f.path = [] ∧ f.actual = some actual := by
  rw [failures_eq_judge, judge] at hf
  split at hf
  · exact Or.inl hf
  · split at hf
    · exact Or.inr (List.mem_singleton.1 hf ▸ ⟨rfl, rfl⟩)
    · cases hf

theorem failures_leadInto (hsettled : actual.Settled m.settings) (hplain : actual.HasPlainNames)
    (hf : f ∈ m.failures mode p actual) : f.LeadsInto actual := by
  rcases mem_failures_cases hf with hf | ⟨hpath, hactual⟩
  · exact p.failures_leadInto hsettled hplain hf
  · exact Failure.leadsInto_of_path_nil hpath hactual

/-- Every failure of a comparison of each item leads into the sequence. -/
theorem compareEachWith_leadInto (hsettled : actual.Settled m.settings)
    (hplain : actual.HasPlainNames) (hf : f ∈ (m.compareEachWith actual p mode).failures) :
    f.LeadsInto actual := by
  rw [compareEachWith, hsettled.unfolded] at hf
  cases actual with
  | sequence items =>
      simp only at hf
      split at hf
      · exact List.mem_singleton.1 hf ▸ Failure.leadsInto_of_path_nil rfl rfl
      · obtain ⟨⟨item, i⟩, hitem, hmem⟩ := List.mem_flatMap.1 hf
        rw [evaluate_some] at hmem
        obtain ⟨g, hg, rfl⟩ := List.mem_map.1 hmem
        have hget : items[i]? = some item := List.mem_zipIdx_iff_getElem?.1 hitem
        have hmem := List.mem_of_getElem? hget
        have hleads := failures_leadInto (hsettled.item hmem) (hplain.item hmem) hg
        apply hleads.below
        intro keys
        exact Value.get?_item hget _
  | _ => exact List.mem_singleton.1 hf ▸ Failure.leadsInto_of_path_nil rfl rfl

end Matcher

/-- Whatever is compared, as a whole or item by item, the path of every failure leads to
the value that the failure reports. -/
theorem reported_paths_lead_to_values (m : Matcher) {actual expected : Value} {p : Pattern}
    (hp : m.compile expected = .ok p) (hsettled : actual.Settled m.settings)
    (hplain : actual.HasPlainNames) (mode : Mode) :
    ∃ c d, m.compare actual expected mode = .ok c ∧ m.compareEach actual expected mode = .ok d ∧
      ∀ f ∈ c.failures ++ d.failures, f.LeadsInto actual := by
  refine ⟨_, _, Matcher.compare_of_compile hp actual mode,
    Matcher.compareEach_of_compile hp actual mode, ?_⟩
  intro f hf
  rcases List.mem_append.1 hf with hf | hf
  · exact Matcher.failures_leadInto hsettled hplain hf
  · exact Matcher.compareEachWith_leadInto hsettled hplain hf

/-- Two items, of which the second has attributes and a text. -/
def itemPair (attributes : Fields String) (text : String) : Value :=
  .element ⟨"r", [], [.element ⟨"i", [], []⟩, .element ⟨"i", attributes, [.text text]⟩]⟩

/-- A missing attribute and a wrong text of the second of two items are found under the
number of the item. -/
theorem second_item_failures_lead_there :
    ∃ c, Matcher.initial.compare (itemPair [] "2") (itemPair [("k", "a")] "3") .equals = .ok c ∧
      c.failures.map Failure.path = [[.key "i", .index 1], [.key "i", .index 1]] ∧
      ∀ f ∈ c.failures, f.LeadsInto (itemPair [] "2") := by
  have hpaths : (Matcher.initial.compare (itemPair [] "2") (itemPair [("k", "a")] "3")
      .equals).map (fun c => c.failures.map Failure.path) =
        .ok [[.key "i", .index 1], [.key "i", .index 1]] := rfl
  have hcompile : Matcher.initial.compile (itemPair [("k", "a")] "3") = .ok (.element
      (.branch "r" [] [.leaf "i" [] (.literal .null),
        .leaf "i" [("k", .literal (.string "a"))] (.literal (.string "3"))])) := rfl
  have hsettled : (itemPair [] "2").Settled Matcher.initial.settings := by
    rintro - s document ⟨⟩
  have hplain : (itemPair [] "2").HasPlainNames := by
    rintro e ⟨⟩
    simp [Element.Everywhere, Element.EveryChild, Element.HasPlainName, Element.textKey,
      Element.attributeKey?]
  obtain ⟨c, d, hc, -, hleads⟩ :=
    reported_paths_lead_to_values Matcher.initial hcompile hsettled hplain .equals
  rw [hc] at hpaths
  exact ⟨c, hc, Except.ok.inj hpaths, fun f hf => hleads f (List.mem_append_left _ hf)⟩

end DocMatch
