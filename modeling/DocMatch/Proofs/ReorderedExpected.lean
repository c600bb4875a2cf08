import DocMatch.Proofs.ReorderedActual
/-!
Expected values that differ in order only.  Either both of them compile or neither does,
and the patterns they compile to differ in order only, so that the same values fit.
-/

namespace DocMatch

/-- Whether two patterns of elements differ in order only. -/
inductive ElementPattern.Reordered (shuffle : Shuffle) : ElementPattern → ElementPattern → Prop
  | leaf {name : String} {attributes others : Fields Leaf} {text : Leaf}
      (perm : attributes.Perm others) :
      Reordered shuffle (.leaf name attributes text) (.leaf name others text)
  | branch {name : String} {attributes others : Fields Leaf}
      {children middle items : List ElementPattern} (perm : attributes.Perm others)
      (parts : List.Forall₂ (Reordered shuffle) children middle)
      (order : shuffle.Rearranges middle items) :
      Reordered shuffle (.branch name attributes children) (.branch name others items)

mutual

/-- Whether two patterns are equal or differ in order only. -/
inductive Pattern.Reordered (shuffle : Shuffle) : Pattern → Pattern → Prop
  | refl (p : Pattern) : Pattern.Reordered shuffle p p
  | sequence {items middle others : List Pattern}
      (parts : List.Forall₂ (Pattern.Reordered shuffle) items middle)
      (order : shuffle.Rearranges middle others) :
      Pattern.Reordered shuffle (.sequence items) (.sequence others)
  | mapping {entries middle others : Fields Pattern}
      (parts : List.Forall₂ (Pattern.EntryReordered shuffle) entries middle)
      (order : middle.Perm others) :
      Pattern.Reordered shuffle (.mapping entries) (.mapping others)
  | element {e other : ElementPattern} (h : e.Reordered shuffle other) :
      Pattern.Reordered shuffle (.element e) (.element other)

/-- Whether two entries have the same key and patterns that differ in order only. -/
inductive Pattern.EntryReordered (shuffle : Shuffle) :
    String × Pattern → String × Pattern → Prop
  | intro {key : String} {p q : Pattern} (h : Pattern.Reordered shuffle p q) :
      Pattern.EntryReordered shuffle (key, p) (key, q)

end

namespace Pattern

variable {registry : Registry} {settings : Settings} {shuffle : Shuffle} {limit : Nat}

theorem compileFields_of_perm {α β : Type} {f : α → Except MatchError β}
    {fields others : Fields α} {results : Fields β} (h : fields.Perm others)
    (hresults : compileFields f fields = .ok results) :
    ∃ rearranged, compileFields f others = .ok rearranged ∧ results.Perm rearranged := by
  obtain ⟨rearranged, hothers, hperm⟩ :=
    List.perm_comp_forall₂ h.symm (compileFields_eq_ok_iff.1 hresults)
  exact ⟨rearranged, compileFields_eq_ok_iff.2 hothers, hperm.symm⟩

theorem compileList_of_perm {α β : Type} {f : α → Except MatchError β} {items others : List α}
    {results : List β} (h : items.Perm others) (hresults : compileList f items = .ok results) :
    ∃ rearranged, compileList f others = .ok rearranged ∧ results.Perm rearranged := by
  obtain ⟨rearranged, hothers, hperm⟩ :=
    List.perm_comp_forall₂ h.symm (compileList_eq_ok_iff.1 hresults)
  exact ⟨rearranged, compileList_eq_ok_iff.2 hothers, hperm.symm⟩

/-- Items compile to related patterns in the order into which they are put. -/
theorem compileList_of_rearranged {α β : Type} {f : α → Except MatchError β}
    {rel : α → α → Prop} {rel' : β → β → Prop} {items middle others : List α} {results : List β}
    (parts : List.Forall₂ rel items middle) (order : shuffle.Rearranges middle others)
    (hstep : ∀ a b r, rel a b → f a = .ok r → ∃ s, f b = .ok s ∧ rel' r s)
    (hresults : compileList f items = .ok results) :
    ∃ related rearranged, compileList f others = .ok rearranged ∧
      List.Forall₂ rel' results related ∧ shuffle.Rearranges related rearranged := by
  obtain ⟨related, hmiddle, hrelated⟩ :=
    exists_forall₂_of_forall₂ parts (compileList_eq_ok_iff.1 hresults) hstep
  obtain ⟨rearranged, hothers, horder⟩ := order.exists_forall₂ hmiddle
  exact ⟨related, rearranged, compileList_eq_ok_iff.2 hothers, hrelated, horder⟩

theorem compileElement_of_reordered {room : Nat} :
    ∀ {e other : Element} {p : ElementPattern}, e.Reordered shuffle other →
      compileElement registry limit room e = .ok p →
        ∃ q, compileElement registry limit room other = .ok q ∧ p.Reordered shuffle q := by
  induction room with
  | zero => exact nofun
  | succ room ih =>
      intro e other p h hp
      have hleaf_eq := h.isLeaf_eq
      obtain ⟨name_eq, attributes, text_eq, parts, order⟩ := h
      cases hleaf : e.isLeaf with
      | true =>
          obtain ⟨results, text, hresults, htext, rfl⟩ := (compileElement_leaf_iff hleaf).1 hp
          obtain ⟨rearranged, hrearranged, hperm⟩ := compileFields_of_perm attributes hresults
          rw [text_eq] at htext
          refine ⟨_, (compileElement_leaf_iff (hleaf_eq ▸ hleaf)).2
            ⟨rearranged, text, hrearranged, htext, rfl⟩, ?_⟩
          rw [name_eq]
          exact .leaf hperm
      | false =>
          obtain ⟨results, children, hresults, hchildren, rfl⟩ :=
            (compileElement_branch_iff hleaf).1 hp
          obtain ⟨rearranged, hrearranged, hperm⟩ := compileFields_of_perm attributes hresults
          obtain ⟨middle, items, hitems, hparts, horder⟩ :=
            compileList_of_rearranged parts order (fun _ _ _ => ih) hchildren
          refine ⟨_, (compileElement_branch_iff (hleaf_eq ▸ hleaf)).2
            ⟨rearranged, items, hrearranged, hitems, rfl⟩, ?_⟩
          rw [name_eq]
          exact .branch hperm hparts horder

theorem compileWithin_of_reordered {room : Nat} :
    ∀ {v w : Value} {p : Pattern}, v.Reordered shuffle w →
      compileWithin registry settings room v = .ok p →
        ∃ q, compileWithin registry settings room w = .ok q ∧ p.Reordered shuffle q := by
  induction room with
  | zero => exact nofun
  | succ room ih =>
      intro v w p h hp
      cases h with
      | leaf => exact ⟨p, hp, .refl p⟩
      | sequence parts order =>
          obtain ⟨results, hresults, rfl⟩ := map_eq_ok_iff.1 hp
          obtain ⟨middle, others, hothers, hparts, horder⟩ :=
            compileList_of_rearranged parts order (fun _ _ _ => ih) hresults
          exact ⟨_, map_eq_ok_iff.2 ⟨others, hothers, rfl⟩, .sequence hparts horder⟩
      | mapping parts order =>
          obtain ⟨results, hresults, rfl⟩ := map_eq_ok_iff.1 hp
          have hstep : ∀ a b r, Value.EntryReordered shuffle a b →
              a.1 = r.1 ∧ compileWithin registry settings room a.2 = .ok r.2 →
                ∃ s, (b.1 = s.1 ∧ compileWithin registry settings room b.2 = .ok s.2) ∧
                  EntryReordered shuffle r s := by
            rintro ⟨key, v⟩ ⟨_, w⟩ ⟨_, r⟩ ⟨h⟩ ⟨rfl, hr⟩
            obtain ⟨s, hs, hrs⟩ := ih h hr
            exact ⟨(key, s), ⟨rfl, hs⟩, .intro hrs⟩
          obtain ⟨middle, hmiddle, hparts⟩ :=
            exists_forall₂_of_forall₂ parts (compileFields_eq_ok_iff.1 hresults) hstep
          obtain ⟨others, hothers, hperm⟩ :=
            compileFields_of_perm order (compileFields_eq_ok_iff.2 hmiddle)
          exact ⟨_, map_eq_ok_iff.2 ⟨others, hothers, rfl⟩, .mapping hparts hperm⟩
      | element h =>
          obtain ⟨result, hresult, rfl⟩ := map_eq_ok_iff.1 hp
          obtain ⟨other, hother, hreordered⟩ := compileElement_of_reordered h hresult
          exact ⟨_, map_eq_ok_iff.2 ⟨other, hother, rfl⟩, .element hreordered⟩

end Pattern

namespace Shuffle

variable {shuffle : Shuffle} {mode : Mode}

/-- Whether a mode disregards the order that a shuffle changes. -/
def IgnoredIn (shuffle : Shuffle) (mode : Mode) : Prop :=
  shuffle = .parts → mode = .containsDeep

/-- A mode other than the deep one disregards only shuffles of keys, and these are
disregarded everywhere. -/
theorem IgnoredIn.of_ne (h : shuffle.IgnoredIn mode) (hne : mode ≠ .containsDeep) {other : Mode} :
    shuffle.IgnoredIn other :=
  fun hparts => absurd (h hparts) hne

theorem IgnoredIn.eq_of_rearranges {α : Type} {items others : List α} (h : shuffle.IgnoredIn mode)
    (hne : mode ≠ .containsDeep) (order : shuffle.Rearranges items others) : items = others := by
  cases shuffle with
  | keys => exact order
  | parts => exact absurd (h rfl) hne

end Shuffle

theorem Pattern.EntryReordered.key_eq {shuffle : Shuffle} {entry other : String × Pattern}
    (h : EntryReordered shuffle entry other) : entry.1 = other.1 := by
  cases h
  rfl

theorem Pattern.EntryReordered.value {shuffle : Shuffle} {entry other : String × Pattern}
    (h : EntryReordered shuffle entry other) : entry.2.Reordered shuffle other.2 := by
  obtain ⟨hvalue⟩ := h
  exact hvalue

namespace ElementPattern

variable {shuffle : Shuffle} {mode : Mode} {e other : ElementPattern} {actual : Element}

/-- Attributes are expected in any order. -/
theorem tagFits_of_expected (hname : e.name = other.name)
    (h : e.attributes.Perm other.attributes) :
    e.TagFits mode actual ↔ other.TagFits mode actual := by
  have hwithin : Fields.KeysWithin actual.attributes e.attributes ↔
      Fields.KeysWithin actual.attributes other.attributes :=
    Fields.keysWithin_of_expected (h.map Prod.fst)
  have hattributes : Fields.EachFits (·.allowsAbsent = true)
      (fun l s => l.Fits .equals (.string s)) e.attributes actual.attributes ↔
        Fields.EachFits (·.allowsAbsent = true)
          (fun l s => l.Fits .equals (.string s)) other.attributes actual.attributes := by
    simp only [Fields.EachFits, h.mem_iff]
  constructor
  · rintro ⟨name_eq, within, attributes⟩
    exact ⟨name_eq.trans hname, fun h => hwithin.1 (within h), hattributes.1 attributes⟩
  · rintro ⟨name_eq, within, attributes⟩
    exact ⟨name_eq.trans hname.symm, fun h => hwithin.2 (within h), hattributes.2 attributes⟩

/-- Whether the same elements fit two patterns in the modes that disregard a shuffle. -/
def FittedAlike (shuffle : Shuffle) (e other : ElementPattern) : Prop :=
  ∀ mode, shuffle.IgnoredIn mode → ∀ actual, (e.Fits mode actual ↔ other.Fits mode actual)

/-- Branches with the same attributes and with children that are fitted alike are fitted
alike. -/
theorem fittedAlike_of_children {name : String} {attributes others : Fields Leaf}
    {children middle items : List ElementPattern} (perm : attributes.Perm others)
    (parts : List.Forall₂ (FittedAlike shuffle) children middle)
    (order : shuffle.Rearranges middle items) :
    (branch name attributes children).FittedAlike shuffle (branch name others items) := by
  intro mode hmode actual
  have htag : (branch name attributes children).TagFits mode actual ↔
      (branch name others items).TagFits mode actual := tagFits_of_expected rfl perm
  by_cases hequals : mode = .equals
  · subst hequals
    obtain rfl := hmode.eq_of_rearranges (by simp) order
    have hitems := forall₂_iff_of_forall₂ (parts.imp fun _ _ h => h _ hmode) actual.childElements
    rw [fits_branch_equals_iff, fits_branch_equals_iff, htag, hitems]
  · by_cases hany : mode = .containsAny
    · subst hany
      have hcontains : shuffle.IgnoredIn .contains := hmode.of_ne (by simp)
      have hchild := exists_iff_of_forall₂ (parts.imp fun _ _ h =>
        exists_congr fun item => and_congr_right fun (_ : item ∈ actual.childElements) =>
          h _ hcontains item)
      rw [fits_branch_any_iff, fits_branch_any_iff, htag, hchild]
      simp only [order.perm.mem_iff]
    · have hplaces := Assignment.embeds_iff_of_expected _ parts order.perm
        (fun _ _ _ h => h _ hmode) actual.childElements
      rw [fits_branch_iff hequals hany, fits_branch_iff hequals hany, htag, hplaces,
        parts.length_eq, order.perm.length_eq]

/-- The same elements fit two patterns that differ in order only. -/
theorem fittedAlike_of_reordered (e : ElementPattern) :
    ∀ {other : ElementPattern}, e.Reordered shuffle other → e.FittedAlike shuffle other := by
  induction e using ElementPattern.induct with
  | leaf name attributes text =>
      intro other h mode hmode actual
      cases h with
      | @leaf _ _ others _ perm =>
          have htag : (leaf name attributes text).TagFits mode actual ↔
              (leaf name others text).TagFits mode actual := tagFits_of_expected rfl perm
          rw [fits_leaf_iff, fits_leaf_iff, htag]
  | branch name attributes children ih =>
      intro other h
      cases h with
      | branch perm parts order =>
          have hchildren : List.Forall₂ (FittedAlike shuffle) children _ :=
            ((List.forall₂_and_left _ _).2 ⟨ih, parts⟩).imp fun _ _ h => h.1 h.2
          exact fittedAlike_of_children perm hchildren order

end ElementPattern

/-- An entry fits like one with the same key that the same values fit. -/
theorem Fields.entryFits_of_expected {α ε : Type} {mayLack : ε → Prop} {fits : ε → α → Prop}
    {actual : Fields α} {entry other : String × ε} (hkey : entry.1 = other.1)
    (hlack : mayLack entry.2 ↔ mayLack other.2) (hfits : ∀ v, (fits entry.2 v ↔ fits other.2 v)) :
    EntryFits mayLack fits actual entry ↔ EntryFits mayLack fits actual other := by
  rw [EntryFits, EntryFits, hkey]
  split
  · exact hlack
  · exact hfits _

namespace Pattern

variable {settings : Settings} {shuffle : Shuffle}

/-- Whether the same values fit two patterns in the modes that disregard a shuffle, also
where the patterns are parts or where there may be no value. -/
structure FittedAlike (settings : Settings) (shuffle : Shuffle) (p q : Pattern) : Prop where
  allowsAbsent_iff : p.allowsAbsent = true ↔ q.allowsAbsent = true
  fits_iff {mode : Mode} (hmode : shuffle.IgnoredIn mode) (v : Value) :
    p.Fits settings mode v ↔ q.Fits settings mode v
  inner_iff {mode : Mode} (hmode : shuffle.IgnoredIn mode) (v : Value) :
    p.Fits settings (mode.inner v p) v ↔ q.Fits settings (mode.inner v q) v

theorem FittedAlike.refl (p : Pattern) : p.FittedAlike settings shuffle p :=
  ⟨Iff.rfl, fun _ _ => Iff.rfl, fun _ _ => Iff.rfl⟩

theorem allowsAbsent_of_isContainer {p : Pattern} (hp : p.isContainer = true) :
    p.allowsAbsent = false := by
  cases p with
  | leaf l => cases hp
  | _ => rfl

/-- The deep mode goes on into parts that are containers, and every other mode turns into
that of equality, where only keys can have been shuffled. -/
theorem fittedAlike_of_containers {p q : Pattern} (hp : p.isContainer = true)
    (hq : q.isContainer = true)
    (hfits : ∀ {mode : Mode}, shuffle.IgnoredIn mode → ∀ v,
      (p.Fits settings mode v ↔ q.Fits settings mode v)) : p.FittedAlike settings shuffle q where
  allowsAbsent_iff := by
    rw [allowsAbsent_of_isContainer hp, allowsAbsent_of_isContainer hq]
  fits_iff := hfits
  inner_iff := by
    intro mode hmode v
    have hinner : mode.inner v q = mode.inner v p := by rw [Mode.inner, Mode.inner, hp, hq]
    rw [hinner]
    refine hfits (fun hparts => ?_) v
    simp [Mode.inner, hmode hparts, hp]

/-- Sequences with items that are fitted alike are fitted alike. -/
theorem fittedAlike_of_items {items middle others : List Pattern}
    (parts : List.Forall₂ (FittedAlike settings shuffle) items middle)
    (order : shuffle.Rearranges middle others) :
    (Pattern.sequence items).FittedAlike settings shuffle (.sequence others) := by
  refine fittedAlike_of_containers rfl rfl fun {mode} hmode v => ?_
  by_cases hequals : mode = .equals
  · subst hequals
    obtain rfl := hmode.eq_of_rearranges (by simp) order
    have hitems := forall₂_iff_of_forall₂ (parts.imp fun _ _ h => h.fits_iff hmode)
    simp only [fits_sequence_equals_iff, hitems]
  · by_cases hany : mode = .containsAny
    · subst hany
      have hequals : shuffle.IgnoredIn .equals := hmode.of_ne (by simp)
      rw [fits_sequence_any_iff, fits_sequence_any_iff]
      refine exists_congr fun actual => and_congr_right fun _ => ?_
      simp only [← order.perm.mem_iff]
      exact exists_iff_of_forall₂ (parts.imp fun _ _ h =>
        exists_congr fun item => and_congr_right fun _ => h.fits_iff hequals item)
    · have hplaces := Assignment.embeds_iff_of_expected
        (fun p item => p.Fits settings (mode.inner item p) item) parts order.perm
        fun _ _ _ h => h.inner_iff hmode
      simp only [fits_sequence_iff hequals hany, hplaces,
        parts.length_eq.trans order.perm.length_eq]

/-- Mappings with values that are fitted alike under each key are fitted alike. -/
theorem fittedAlike_of_entries {entries middle others : Fields Pattern}
    (parts : List.Forall₂ (fun a b => a.1 = b.1 ∧ a.2.FittedAlike settings shuffle b.2)
      entries middle) (order : middle.Perm others) :
    (Pattern.mapping entries).FittedAlike settings shuffle (.mapping others) := by
  refine fittedAlike_of_containers rfl rfl fun {mode} hmode v => ?_
  by_cases hany : mode = .containsAny
  · subst hany
    have hequals : shuffle.IgnoredIn .equals := hmode.of_ne (by simp)
    rw [fits_mapping_any_iff, fits_mapping_any_iff]
    refine exists_congr fun actual => and_congr_right fun _ => ?_
    simp only [← order.mem_iff]
    exact exists_iff_of_forall₂ (parts.imp fun _ _ h =>
      Fields.entryFits_of_expected h.1 h.2.allowsAbsent_iff (h.2.fits_iff hequals))
  · rw [fits_mapping_iff hany, fits_mapping_iff hany]
    refine exists_congr fun actual => and_congr_right fun _ => and_congr ?_ ?_
    · exact imp_congr_right fun _ =>
        Fields.keysWithin_of_expected (Fields.keys_perm_of_shuffled parts order)
    · simp only [Fields.EachFits, ← order.mem_iff]
      exact forall_iff_of_forall₂ (parts.imp fun _ _ h =>
        Fields.entryFits_of_expected h.1 h.2.allowsAbsent_iff (h.2.inner_iff hmode))

/-- The same values fit two patterns that differ in order only. -/
theorem fittedAlike_of_reordered (p : Pattern) :
    ∀ {q : Pattern}, p.Reordered shuffle q → p.FittedAlike settings shuffle q := by
  induction p using Pattern.induct with
  | leaf l =>
      rintro q ⟨⟩
      exact .refl _
  | sequence items ih =>
      intro q h
      cases h with
      | refl => exact .refl _
      | sequence parts order =>
          have hitems := ((List.forall₂_and_left _ _).2 ⟨ih, parts⟩).imp fun _ _ h => h.1 h.2
          exact fittedAlike_of_items hitems order
  | mapping entries ih =>
      intro q h
      cases h with
      | refl => exact .refl _
      | mapping parts order =>
          have hentries := ((List.forall₂_and_left _ _).2 ⟨ih, parts⟩).imp
            fun _ _ h => And.intro h.2.key_eq (h.1 h.2.value)
          exact fittedAlike_of_entries hentries order
  | element e =>
      intro q h
      cases h with
      | refl => exact .refl _
      | element h =>
          refine fittedAlike_of_containers rfl rfl fun hmode v => ?_
          have he := e.fittedAlike_of_reordered h _ hmode
          simp only [fits_element_iff, he]

/-- Where order is disregarded, that of the expected items is. -/
theorem fits_of_expected_perm {mode : Mode} (hmode : mode ≠ .equals) {items others : List Pattern}
    (h : items.Perm others) (v : Value) :
    (Pattern.sequence items).Fits settings mode v ↔
      (Pattern.sequence others).Fits settings mode v := by
  by_cases hany : mode = .containsAny
  · subst hany
    simp only [fits_sequence_any_iff, h.mem_iff]
  · have hplaces := Assignment.embeds_iff_of_expected
      (fun p item => p.Fits settings (mode.inner item p) item)
      (List.forall₂_same.2 fun _ _ => rfl) h fun _ _ _ heq _ => heq ▸ Iff.rfl
    simp only [fits_sequence_iff hmode hany, h.length_eq, hplaces]

end Pattern

end DocMatch
