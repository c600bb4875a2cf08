import DocMatch.Proofs.Compiled
import DocMatch.Proofs.Verdict
/-!
The modes form a chain.  Equality is stricter than containment of the same items in
any order, this is stricter than containment, and this is stricter than deep
containment; and what is contained has some part in common with the actual value
unless nothing was expected.
-/

namespace DocMatch

/-- The next mode in the chain, which asks for less. -/
inductive Mode.Loosens : Mode → Mode → Prop
  | only : Loosens .equals .containsOnly
  | contains : Loosens .containsOnly .contains
  | deep : Loosens .contains .containsDeep

variable {mode looser : Mode}

theorem Mode.Loosens.isExact (h : Mode.Loosens mode looser) (hexact : looser.isExact = true) :
    mode.isExact = true := by
  cases h with
  | only => rfl
  | contains => cases hexact
  | deep => cases hexact

theorem Leaf.Fits.loosen {l : Leaf} {v : Value} (hmode : Mode.Loosens mode looser)
    (h : l.Fits mode v) : l.Fits looser v := by
  cases hmode with
  | only => exact h.of_equals
  | contains => exact (Leaf.fits_congr rfl).1 h
  | deep => exact (Leaf.fits_congr rfl).1 h

namespace ElementPattern

theorem TagFits.loosen {e : ElementPattern} {actual : Element} (h : e.TagFits mode actual)
    (hexact : looser.isExact = true → mode.isExact = true) : e.TagFits looser actual :=
  ⟨h.name_eq, fun hlooser => h.within (hexact hlooser), h.attributes⟩

/-- An element that fits a pattern fits it in the next mode too. -/
theorem Fits.loosen {e : ElementPattern} (hmode : Mode.Loosens mode looser) :
    ∀ {actual : Element}, e.Fits mode actual → e.Fits looser actual := by
  induction e using ElementPattern.induct with
  | leaf name attributes text =>
      intro actual h
      rw [fits_leaf_iff] at h ⊢
      exact ⟨h.1.loosen hmode.isExact, h.2⟩
  | branch name attributes children ih =>
      intro actual h
      cases hmode with
      | only =>
          rw [fits_branch_equals_iff] at h
          rw [fits_branch_iff (by simp) (by simp)]
          have hembeds := Assignment.Embeds.of_forall₂ h.2
          refine ⟨h.1.loosen fun _ => rfl, fun _ => h.2.length_eq, ?_⟩
          exact hembeds.mono fun child hchild item _ => ih child hchild
      | contains =>
          rw [fits_branch_iff (by simp) (by simp)] at h ⊢
          refine ⟨h.1.loosen fun _ => rfl, by simp, ?_⟩
          exact h.2.2.mono fun child hchild item _ => ih child hchild
      | deep =>
          rw [fits_branch_iff (by simp) (by simp)] at h ⊢
          refine ⟨h.1.loosen fun hexact => hexact, by simp, ?_⟩
          exact h.2.2.mono fun child hchild item _ => ih child hchild

end ElementPattern

namespace Pattern

variable {settings : Settings}

/-- Equality of a part is enough in whichever mode parts are compared. -/
theorem fits_inner_of_equals {p : Pattern} {v : Value} (h : p.Fits settings .equals v)
    (hdeep : p.Fits settings .equals v → p.Fits settings .containsDeep v) :
    p.Fits settings (mode.inner v p) v := by
  unfold Mode.inner
  split
  · exact hdeep h
  · exact h

/-- A value that fits a pattern fits it in the next mode too. -/
theorem Fits.loosen {p : Pattern} :
    ∀ {mode looser : Mode} {v : Value}, Mode.Loosens mode looser →
      p.Fits settings mode v → p.Fits settings looser v := by
  induction p using Pattern.induct with
  | leaf l =>
      intro mode looser v hmode h
      rw [fits_leaf] at h ⊢
      exact h.loosen hmode
  | sequence expected ih =>
      intro mode looser v hmode h
      cases hmode with
      | only =>
          rw [fits_sequence_equals_iff] at h
          rw [fits_sequence_iff (by simp) (by simp)]
          obtain ⟨items, hitems, hfits⟩ := h
          exact ⟨items, hitems, fun _ => hfits.length_eq, .of_forall₂ hfits⟩
      | contains =>
          rw [fits_sequence_iff (by simp) (by simp)] at h ⊢
          obtain ⟨items, hitems, -, hembeds⟩ := h
          exact ⟨items, hitems, by simp, hembeds⟩
      | deep =>
          rw [fits_sequence_iff (by simp) (by simp)] at h ⊢
          obtain ⟨items, hitems, -, hembeds⟩ := h
          refine ⟨items, hitems, by simp, hembeds.mono fun p hp item _ hfits => ?_⟩
          exact fits_inner_of_equals hfits fun hequal =>
            ih p hp .deep (ih p hp .contains (ih p hp .only hequal))
  | mapping expected ih =>
      intro mode looser v hmode h
      cases hmode with
      | only =>
          rw [fits_mapping_iff (by simp)] at h ⊢
          exact h
      | contains =>
          rw [fits_mapping_iff (by simp)] at h ⊢
          obtain ⟨entries, hentries, -, hfits⟩ := h
          exact ⟨entries, hentries, by simp [Mode.isExact], hfits⟩
      | deep =>
          rw [fits_mapping_iff (by simp)] at h ⊢
          obtain ⟨entries, hentries, -, hfits⟩ := h
          refine ⟨entries, hentries, by simp [Mode.isExact], ?_⟩
          apply hfits.mono
          intro entry hentry v hequal
          exact fits_inner_of_equals hequal fun hequal =>
            ih entry hentry .deep (ih entry hentry .contains (ih entry hentry .only hequal))
  | element e =>
      intro mode looser v hmode h
      rw [fits_element_iff] at h ⊢
      obtain ⟨actual, hactual, hfits⟩ := h
      exact ⟨actual, hactual, hfits.loosen hmode⟩

/-- One of several items that have places is found at its place. -/
theorem exists_fits_of_embeds {ε α : Type} {fits : ε → α → Prop} {expected : List ε}
    {actual : List α} (h : Assignment.Embeds fits expected actual) (hne : expected ≠ []) :
    ∃ e ∈ expected, ∃ a ∈ actual, fits e a := by
  obtain ⟨place, -, hfits⟩ := h
  have hpos := List.length_pos_iff.2 hne
  exact ⟨_, List.getElem_mem hpos, _, List.getElem_mem _, hfits ⟨0, hpos⟩⟩

/-- An element that is contained has a part in common with the actual one, if there
are child elements wherever there is a branch. -/
theorem fits_any_of_contains_element {e : ElementPattern} {actual : Element}
    (hne : ∀ name attributes children, e = .branch name attributes children → children ≠ [])
    (h : e.Fits .contains actual) : e.Fits .containsAny actual := by
  cases e with
  | leaf name attributes text =>
      rw [ElementPattern.fits_leaf_iff] at h ⊢
      exact ⟨h.1.loosen id, h.2⟩
  | branch name attributes children =>
      rw [ElementPattern.fits_branch_iff (by simp) (by simp)] at h
      rw [ElementPattern.fits_branch_any_iff]
      exact ⟨h.1.loosen id, exists_fits_of_embeds h.2.2 (hne _ _ _ rfl)⟩

/-- What is contained has a part in common with the actual value, if anything is
expected at all. -/
theorem fits_any_of_contains {p : Pattern} {v : Value}
    (hbranch : ∀ name attributes children, p = .element (.branch name attributes children) →
      children ≠ [])
    (hsequence : p ≠ .sequence []) (hmapping : p ≠ .mapping [])
    (h : p.Fits settings .contains v) : p.Fits settings .containsAny v := by
  cases p with
  | leaf l =>
      rw [fits_leaf] at h ⊢
      exact (Leaf.fits_congr rfl).1 h
  | sequence expected =>
      rw [fits_sequence_iff (by simp) (by simp)] at h
      rw [fits_sequence_any_iff]
      obtain ⟨items, hitems, -, hembeds⟩ := h
      have hne : expected ≠ [] := fun hnil => hsequence (hnil ▸ rfl)
      exact ⟨items, hitems, exists_fits_of_embeds hembeds hne⟩
  | mapping expected =>
      rw [fits_mapping_iff (by simp)] at h
      rw [fits_mapping_any_iff]
      obtain ⟨entries, hentries, -, hfits⟩ := h
      cases expected with
      | nil => exact absurd rfl hmapping
      | cons entry rest =>
          exact ⟨entries, hentries, entry, List.mem_cons_self, hfits entry List.mem_cons_self⟩
  | element e =>
      rw [fits_element_iff] at h ⊢
      obtain ⟨actual, hactual, hfits⟩ := h
      refine ⟨actual, hactual, fits_any_of_contains_element ?_ hfits⟩
      rintro name attributes children rfl
      exact hbranch name attributes children rfl

end Pattern

/-- Whatever an expected value compiles to, a comparison that passes in one mode passes
in the modes that ask for less. -/
theorem modes_form_chain (m : Matcher) {expected : Value} {p : Pattern}
    (hp : m.compile expected = .ok p) (actual : Value) :
    (m.Accepts .equals p actual → m.Accepts .containsOnly p actual) ∧
    (m.Accepts .containsOnly p actual → m.Accepts .contains p actual) ∧
    (m.Accepts .contains p actual → m.Accepts .containsDeep p actual) ∧
    (m.Accepts .contains p actual → p ≠ .sequence [] → p ≠ .mapping [] →
      m.Accepts .containsAny p actual) := by
  rw [Matcher.accepts_iff_fits .equals rfl, Matcher.accepts_iff_fits .containsOnly rfl,
    Matcher.accepts_iff_fits .contains rfl, Matcher.accepts_iff_fits .containsDeep rfl,
    Matcher.accepts_iff_fits .containsAny rfl]
  refine ⟨.loosen .only, .loosen .contains, .loosen .deep, ?_⟩
  intro h hsequence hmapping
  refine Pattern.fits_any_of_contains ?_ hsequence hmapping h
  rintro name attributes children rfl
  exact Pattern.branch_ne_nil_of_compile hp

/-- A mapping that is equal is contained at every level, and has a part in common. -/
theorem equal_mapping_is_contained :
    Matcher.initial.Accepts .containsDeep (.mapping [("a", .leaf (.literal (.bool true)))])
        (.mapping [("a", .bool true)]) ∧
      Matcher.initial.Accepts .containsAny (.mapping [("a", .leaf (.literal (.bool true)))])
        (.mapping [("a", .bool true)]) := by
  have hp : Matcher.initial.compile (.mapping [("a", .bool true)]) =
      .ok (.mapping [("a", .leaf (.literal (.bool true)))]) := rfl
  obtain ⟨honly, hcontains, hdeep, hany⟩ :=
    modes_form_chain Matcher.initial hp (.mapping [("a", .bool true)])
  have hcontained := hcontains (honly rfl)
  exact ⟨hdeep hcontained, hany hcontained (by simp) (by simp)⟩

end DocMatch
