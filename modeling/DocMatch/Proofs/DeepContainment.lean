import DocMatch.Proofs.Inclusion
import DocMatch.Proofs.Nesting
import DocMatch.Proofs.StructuralEquality
/-!
Deep containment of an escaped document.  It decides inclusion, at every level, and
therefore passes from document to document.
-/

namespace DocMatch

theorem Assignment.embeds_map_left_iff {α β γ : Type} {fits : β → γ → Prop} {f : α → β}
    {expected : List α} {actual : List γ} :
    Embeds fits (expected.map f) actual ↔ Embeds (fun e a => fits (f e) a) expected actual := by
  have hlength : expected.length = (expected.map f).length := by simp
  constructor
  · rintro ⟨place, hinjective, hfits⟩
    refine ⟨place ∘ Fin.cast hlength, hinjective.comp (Fin.cast_injective hlength), fun e => ?_⟩
    simpa [FitsAt] using hfits (Fin.cast hlength e)
  · rintro ⟨place, hinjective, hfits⟩
    refine ⟨place ∘ Fin.cast hlength.symm,
      hinjective.comp (Fin.cast_injective hlength.symm), fun e => ?_⟩
    simpa [FitsAt] using hfits (Fin.cast hlength.symm e)

/-- Where no expected entry may be missing, each has to be found. -/
theorem Fields.eachFits_mapValues_iff {α β ε : Type} {mayLack : ε → Prop} {fits : ε → α → Prop}
    {f : β → ε} {expected : Fields β} {actual : Fields α}
    (hlack : ∀ entry ∈ expected, ¬ mayLack (f entry.2)) :
    EachFits mayLack fits (mapValues f expected) actual ↔
      ∀ entry ∈ expected, ∃ v, get? entry.1 actual = some v ∧ fits (f entry.2) v := by
  rw [EachFits, mapValues, List.forall_mem_map]
  apply forall₂_congr
  intro entry hentry
  rw [EntryFits]
  cases get? entry.1 actual with
  | none => simpa using hlack entry hentry
  | some v => simp

namespace Element

variable {e actual : Element}

theorem tagFits_deep_literally_iff {p : ElementPattern} (hname : p.name = e.name)
    (hattributes : p.attributes = Fields.mapValues (fun s => .literal (.string s)) e.attributes) :
    p.TagFits .containsDeep actual ↔ e.TagIncludedIn actual := by
  have heach : Fields.EachFits (·.allowsAbsent = true) (fun l s => l.Fits .equals (.string s))
      p.attributes actual.attributes ↔
        ∀ entry ∈ e.attributes, Fields.get? entry.1 actual.attributes = some entry.2 := by
    rw [hattributes, Fields.eachFits_mapValues_iff (by simp [Leaf.allowsAbsent])]
    simp [Leaf.fits_literal_string_iff]
  constructor
  · exact fun h => ⟨h.name_eq.trans hname, heach.1 h.attributes⟩
  · exact fun h => ⟨h.name_eq.trans hname.symm, by simp [Mode.isExact], heach.2 h.attributes⟩

/-- The literal pattern of an element deeply fits the elements that include it. -/
theorem fits_deep_literally_iff (e : Element) :
    ∀ {actual : Element}, e.literally.Fits .containsDeep actual ↔ e.IncludedIn actual := by
  induction e using Element.induct with
  | step e ih =>
      intro actual
      cases hleaf : e.isLeaf with
      | true =>
          rw [literally_of_isLeaf hleaf, ElementPattern.fits_leaf_iff,
            tagFits_deep_literally_iff rfl rfl, fits_literal_text_iff, includedIn_leaf_iff hleaf]
      | false =>
          rw [literally_of_not_isLeaf hleaf, ElementPattern.fits_branch_iff (by simp) (by simp),
            tagFits_deep_literally_iff rfl rfl, includedIn_branch_iff hleaf,
            Assignment.embeds_map_left_iff]
          apply and_congr_right
          intro _
          constructor
          · exact fun h => h.2.mono fun child hchild _ _ => (ih child hchild).1
          · exact fun h => ⟨by simp, h.mono fun child hchild _ _ => (ih child hchild).2⟩

end Element

namespace Value

variable {settings : Settings}

theorem isContainer_literally (v : Value) : v.literally.isContainer = v.isContainer := by
  cases v <;> rfl

/-- A container is searched deeply wherever it is expected. -/
theorem inner_deep_literally {v : Value} (hv : v.isContainer = true) (actual : Value) :
    Mode.inner .containsDeep actual v.literally = .containsDeep := by
  simp [Mode.inner, isContainer_literally, hv]

/-- The literal pattern of a value, as a part in the deep mode, fits the values that
include it. -/
theorem fits_inner_deep_literally_iff (v : Value) :
    ∀ {actual : Value}, actual.Settled settings →
      (v.literally.Fits settings (Mode.inner .containsDeep actual v.literally) actual ↔
        v.IncludedIn actual) := by
  induction v using Value.induct with
  | leaf v hv =>
      intro actual _
      rw [literally_of_leaf hv, Pattern.fits_leaf, Leaf.fits_literal_iff, includedIn_leaf_iff hv]
      -- only a container is compared with a leaf in a mode of containment, and it is no text
      have hpart : (Mode.inner .containsDeep actual (.leaf (.literal v))).isContainment = true →
          ¬ Leaf.IsPartOf v actual := by
        rintro hmode ⟨e, s, -, rfl, -⟩
        cases hmode
      constructor
      · rintro (hsame | ⟨hmode, hin⟩)
        · exact hsame
        · exact absurd hin (hpart hmode)
      · exact Or.inl
  | sequence items ih =>
      intro actual hsettled
      rw [inner_deep_literally rfl, literally, literallyItems_eq_map,
        Pattern.fits_sequence_iff (by simp) (by simp), hsettled.unfolded, includedIn_sequence_iff]
      apply exists_congr
      intro others
      apply and_congr_right
      rintro rfl
      rw [Assignment.embeds_map_left_iff]
      constructor
      · exact fun h => h.2.mono fun item hitem other hother =>
          (ih item hitem (hsettled.item hother)).1
      · exact fun h => ⟨by simp, h.mono fun item hitem other hother =>
          (ih item hitem (hsettled.item hother)).2⟩
  | mapping entries ih =>
      intro actual hsettled
      rw [inner_deep_literally rfl, literally, literallyEntries_eq_mapValues,
        Pattern.fits_mapping_iff (by simp), hsettled.unfolded, includedIn_mapping_iff]
      apply exists_congr
      intro others
      apply and_congr_right
      rintro rfl
      rw [Fields.eachFits_mapValues_iff (by simp [allowsAbsent_literally])]
      have hentry : ∀ entry ∈ entries, ∀ v, Fields.get? entry.1 others = some v →
          (entry.2.literally.Fits settings (Mode.inner .containsDeep v entry.2.literally) v ↔
            entry.2.IncludedIn v) :=
        fun entry hentry v hget => ih entry hentry (hsettled.entry (Fields.mem_of_get? hget))
      constructor
      · rintro ⟨-, hfits⟩ entry hmem
        obtain ⟨v, hget, hv⟩ := hfits entry hmem
        exact ⟨v, hget, (hentry entry hmem v hget).1 hv⟩
      · refine fun hincluded => ⟨by simp [Mode.isExact], fun entry hmem => ?_⟩
        obtain ⟨v, hget, hv⟩ := hincluded entry hmem
        exact ⟨v, hget, (hentry entry hmem v hget).2 hv⟩
  | element e =>
      intro actual hsettled
      rw [inner_deep_literally rfl, literally, Pattern.fits_element_iff, hsettled.unfolded,
        includedIn_element_iff]
      simp only [Element.fits_deep_literally_iff]

/-- The literal pattern of a container deeply fits the values that include it. -/
theorem fits_deep_literally_iff {v actual : Value} (hv : v.isContainer = true)
    (hsettled : actual.Settled settings) :
    v.literally.Fits settings .containsDeep actual ↔ v.IncludedIn actual := by
  rw [← fits_inner_deep_literally_iff v hsettled, inner_deep_literally hv]

end Value

namespace Matcher

variable {m : Matcher} {v actual : Value}

/-- Whether a comparison in the deep mode with an escaped document passes. -/
def DeeplyContains (m : Matcher) (actual v : Value) : Prop :=
  ∃ c, m.compare actual v.escaped .containsDeep = .ok c ∧ c.passes = true

theorem compare_escaped_deep (hv : v.isContainer = true) (hdepth : v.depth ≤ m.settings.maxDepth)
    (hsettled : actual.Settled m.settings) :
    ∃ c, m.compare actual v.escaped .containsDeep = .ok c ∧
      (c.passes = true ↔ v.IncludedIn actual) := by
  have hcompile : m.compile v.escaped = .ok v.literally := Pattern.compile_escaped hdepth
  refine ⟨_, compare_of_compile hcompile actual .containsDeep, ?_⟩
  rw [← Value.fits_deep_literally_iff hv hsettled]
  exact accepts_iff_fits .containsDeep rfl

/-- A comparison that passes could be made, so the document is not nested too deeply. -/
theorem deeplyContains_iff (hv : v.isContainer = true) (hsettled : actual.Settled m.settings) :
    m.DeeplyContains actual v ↔ v.depth ≤ m.settings.maxDepth ∧ v.IncludedIn actual := by
  constructor
  · rintro ⟨c, hc, hpasses⟩
    obtain ⟨p, hp, -⟩ := bind_eq_ok_iff.1 hc
    have hdepth := (Pattern.compile_escaped_iff.1 hp).1
    obtain ⟨c', hc', hiff⟩ := compare_escaped_deep hv hdepth hsettled
    rw [hc] at hc'
    cases hc'
    exact ⟨hdepth, hiff.1 hpasses⟩
  · rintro ⟨hdepth, hincluded⟩
    obtain ⟨c, hc, hiff⟩ := compare_escaped_deep hv hdepth hsettled
    exact ⟨c, hc, hiff.2 hincluded⟩

end Matcher

/-- Deep containment of an escaped container decides whether the container is included in
the actual value, and it is transitive where the numbers in the middle are exact. -/
theorem deep_containment_decides_inclusion (m : Matcher) :
    (∀ v : Value, v.isContainer = true → v.depth ≤ m.settings.maxDepth →
      ∀ actual : Value, actual.Settled m.settings →
        ∃ c, m.compare actual v.escaped .containsDeep = .ok c ∧
          (c.passes = true ↔ v.IncludedIn actual)) ∧
    (∀ big middle small : Value, small.isContainer = true →
      big.Settled m.settings → middle.Settled m.settings →
      middle.Everywhere Value.HoldsNoDouble →
      m.DeeplyContains big middle → m.DeeplyContains middle small →
      m.DeeplyContains big small) := by
  constructor
  · exact fun v hv hdepth actual => Matcher.compare_escaped_deep hv hdepth
  · intro big middle small hsmall hbig hmiddle hexact h h'
    obtain ⟨hdepth, hincluded⟩ := (Matcher.deeplyContains_iff hsmall hmiddle).1 h'
    obtain ⟨-, hincluded'⟩ :=
      (Matcher.deeplyContains_iff (hincluded.isContainer hsmall) hbig).1 h
    exact (Matcher.deeplyContains_iff hsmall hbig).2
      ⟨hdepth, hincluded.trans _ hexact hincluded'⟩

/-- Items are contained in any order and beside further ones, and so is each of them; a
text that looks like a marker is taken literally. -/
theorem reordered_items_deeply_contained :
    Matcher.initial.DeeplyContains
        (.sequence [.mapping [("c", .string "#string"), ("d", .null)], .bool true])
        (.sequence [.bool true, .mapping [("c", .string "#string")]]) ∧
      Matcher.initial.DeeplyContains
        (.sequence [.mapping [("c", .string "#string"), ("d", .null)], .bool true])
        (.sequence [.mapping [("c", .string "#string")]]) := by
  obtain ⟨hdecides, htrans⟩ := deep_containment_decides_inclusion Matcher.initial
  have hitem : ∀ rest, (Value.mapping [("c", .string "#string")]).IncludedIn
      (.mapping (("c", .string "#string") :: rest)) := by
    intro rest
    have htext : (Value.string "#string").IncludedIn (.string "#string") := .leaf rfl rfl
    refine Value.includedIn_mapping_iff.2 ⟨_, rfl, ?_⟩
    simpa [Fields.get?] using htext
  have hread : ∀ s document, "#string" = s → Value.readDocument s ≠ .ok document := by
    rintro _ document rfl h
    cases h
  have hbig : (Value.sequence [.mapping [("c", .string "#string"), ("d", .null)],
      .bool true]).Settled Matcher.initial.settings := by
    simpa [Value.Settled, Value.Everywhere, Value.EveryItem, Value.EveryEntry,
      Value.HoldsNoDocument] using fun _ => hread
  have hmiddle : (Value.sequence [.bool true, .mapping [("c", .string "#string")]]).Settled
      Matcher.initial.settings := by
    simpa [Value.Settled, Value.Everywhere, Value.EveryItem, Value.EveryEntry,
      Value.HoldsNoDocument] using fun _ => hread
  have hexact : (Value.sequence [.bool true, .mapping [("c", .string "#string")]]).Everywhere
      Value.HoldsNoDouble := by
    simp [Value.Everywhere, Value.EveryItem, Value.EveryEntry, Value.HoldsNoDouble]
  have hswapped : Matcher.initial.DeeplyContains
      (.sequence [.mapping [("c", .string "#string"), ("d", .null)], .bool true])
      (.sequence [.bool true, .mapping [("c", .string "#string")]]) := by
    obtain ⟨c, hc, hiff⟩ := hdecides (.sequence [.bool true, .mapping [("c", .string "#string")]])
      rfl (by decide) _ hbig
    refine ⟨c, hc, hiff.2 (.sequence Fin.rev Fin.rev_injective ?_)⟩
    rintro ⟨_ | _ | n, hn⟩
    · exact .leaf rfl rfl
    · exact hitem _
    · exact absurd hn (by simp)
  have hpart : Matcher.initial.DeeplyContains
      (.sequence [.bool true, .mapping [("c", .string "#string")]])
      (.sequence [.mapping [("c", .string "#string")]]) := by
    obtain ⟨c, hc, hiff⟩ := hdecides (.sequence [.mapping [("c", .string "#string")]])
      rfl (by decide) _ hmiddle
    refine ⟨c, hc, hiff.2 (.sequence (Fin.natAdd 1) (Fin.natAdd_injective 1 1) ?_)⟩
    rintro ⟨_ | n, hn⟩
    · exact hitem _
    · exact absurd hn (by simp)
  exact ⟨hswapped, htrans _ _ _ rfl hbig hmiddle hexact hswapped hpart⟩

end DocMatch
