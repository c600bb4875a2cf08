import DocMatch.Proofs.ModeChain
import DocMatch.Proofs.ReorderedActual
import Mathlib.Data.List.NodupEquivFin
/-!
Asking for less.  An expected element that lacks an attribute or a child element of another one
is contained wherever that one is, as long as elements with child elements keep some: without
child elements it is the text of an element that is compared.
-/

namespace DocMatch

namespace Assignment

variable {α : Type}

/-- What is left of a list has its places in the list. -/
theorem Embeds.of_sublist {items others : List α} (h : items.Sublist others) :
    Embeds (fun a b => a = b) items others := by
  obtain ⟨place, hplace⟩ := List.sublist_iff_exists_fin_orderEmbedding_get_eq.1 h
  exact ⟨place, place.injective, hplace⟩

end Assignment

/-- Results of what is left of a list are left of the results. -/
theorem exists_forall₂_of_sublist {α β : Type} {rel : α → β → Prop} {values others : List α}
    {results : List β} (hsublist : values.Sublist others) (h : List.Forall₂ rel others results) :
    ∃ fewer, List.Forall₂ rel values fewer ∧ fewer.Sublist results := by
  induction hsublist generalizing results with
  | slnil =>
      cases h
      exact ⟨[], .nil, .slnil⟩
  | cons _ _ ih =>
      cases h with
      | cons _ hrest =>
          obtain ⟨fewer, hfewer, hsublist⟩ := ih hrest
          exact ⟨fewer, hfewer, hsublist.cons _⟩
  | cons_cons _ _ ih =>
      cases h with
      | cons hrel hrest =>
          obtain ⟨fewer, hfewer, hsublist⟩ := ih hrest
          exact ⟨_, .cons hrel hfewer, hsublist.cons_cons _⟩

namespace Element

/-- Whether an element is another one without one of its attributes or child elements. -/
inductive LacksPart : Element → Element → Prop
  | withoutAttribute {name : String} {before after : Fields String} {a : String × String}
      {children : List (Content Element)} :
      LacksPart ⟨name, before ++ after, children⟩ ⟨name, before ++ a :: after, children⟩
  | withoutChild {name : String} {attributes : Fields String}
      {before after : List (Content Element)} {child : Element} :
      LacksPart ⟨name, attributes, before ++ after⟩
        ⟨name, attributes, before ++ .element child :: after⟩

/-- Whether an element lacks a part of another one, and has child elements if that one does. -/
def LacksSparePart (small big : Element) : Prop :=
  small.LacksPart big ∧ small.isLeaf = big.isLeaf

/-- Whether an element is related to another one, or is the same but for one element in it, at
any depth, that is related to the one there. -/
inductive AtDepth (rel : Element → Element → Prop) : Element → Element → Prop
  | here {small big : Element} (h : rel small big) : AtDepth rel small big
  | inside {name : String} {attributes : Fields String} {before after : List (Content Element)}
      {small big : Element} (h : AtDepth rel small big) :
      AtDepth rel ⟨name, attributes, before ++ .element small :: after⟩
        ⟨name, attributes, before ++ .element big :: after⟩

section LacksPart

variable {small big : Element}

theorem LacksPart.name_eq (h : small.LacksPart big) : small.name = big.name := by
  cases h <;> rfl

theorem LacksPart.attributes_sublist (h : small.LacksPart big) :
    small.attributes.Sublist big.attributes := by
  cases h with
  | @withoutAttribute _ before => exact (List.sublist_cons_self ..).append_left before
  | withoutChild => exact List.Sublist.refl _

theorem LacksPart.childElements_sublist (h : small.LacksPart big) :
    small.childElements.Sublist big.childElements := by
  cases h with
  | withoutAttribute => exact List.Sublist.refl _
  | @withoutChild _ _ before =>
      exact ((List.sublist_cons_self ..).append_left before).filterMap _

theorem LacksPart.text?_eq (h : small.LacksPart big) : small.text? = big.text? := by
  cases h with
  | withoutAttribute => rfl
  | withoutChild =>
      simp only [text?, List.filterMap_append]
      rfl

end LacksPart

section Around

variable (name : String) (attributes : Fields String) (before after : List (Content Element))
  (e : Element)

theorem childElements_around :
    childElements ⟨name, attributes, before ++ .element e :: after⟩ =
      before.filterMap Content.element? ++ e :: after.filterMap Content.element? := by
  rw [childElements, List.filterMap_append]
  rfl

theorem isLeaf_around : isLeaf ⟨name, attributes, before ++ .element e :: after⟩ = false := by
  simp [isLeaf, childElements_around]

end Around

end Element

namespace ElementPattern

/-- Whether a pattern is contained wherever another one is. -/
def IsLooserThan (q p : ElementPattern) : Prop :=
  ∀ mode ∈ [Mode.contains, .containsDeep], ∀ actual, p.Fits mode actual → q.Fits mode actual

variable {mode : Mode} {name : String} {attributes fewer : Fields Leaf}
  {children others : List ElementPattern} {text : Leaf}

theorem IsLooserThan.refl (p : ElementPattern) : p.IsLooserThan p :=
  fun _ _ _ hfits => hfits

theorem isExact_of_containment (hmode : mode ∈ [Mode.contains, .containsDeep]) :
    mode.isExact = false := by
  rcases List.mem_pair.1 hmode with rfl | rfl <;> rfl

/-- Fewer attributes are found wherever all of them are. -/
theorem TagFits.of_subset (hmode : mode ∈ [Mode.contains, .containsDeep]) {p : ElementPattern}
    {actual : Element} (h : p.TagFits mode actual) (q : ElementPattern) (hname : q.name = p.name)
    (hattributes : q.attributes ⊆ p.attributes) : q.TagFits mode actual where
  name_eq := h.name_eq.trans hname.symm
  within hexact := by
    rw [isExact_of_containment hmode] at hexact
    cases hexact
  attributes entry hentry := h.attributes entry (hattributes hentry)

theorem isLooserThan_leaf (h : fewer ⊆ attributes) :
    (leaf name fewer text).IsLooserThan (leaf name attributes text) := by
  intro mode hmode actual hfits
  obtain ⟨htag, htext⟩ := fits_leaf_iff.1 hfits
  exact fits_leaf_iff.2 ⟨htag.of_subset hmode _ rfl h, htext⟩

/-- In an element with child elements a text is found only by a marker that accepts all of the
element. -/
theorem exists_marker_of_fits_leaf (hplain : (leaf name attributes text).Plain)
    {actual : Element} (hactual : actual.isLeaf = false)
    (h : (leaf name attributes text).Fits mode actual) :
    ∃ m, text = .marker m ∧ m.check (.element actual) = [] := by
  obtain ⟨-, htext⟩ := fits_leaf_iff.1 h
  rw [textValue, hactual] at htext
  cases text with
  | marker m => exact ⟨m, rfl, List.map_eq_nil_iff.1 htext⟩
  | literal v =>
      cases hplain with
      | leaf hv =>
          rcases Leaf.fits_literal_iff.1 htext with hsame | ⟨hcontainment, -⟩
          · exact absurd (Value.kind_eq_of_sameAs hsame) (Leaf.kind_ne_of_isPlain hv rfl)
          · cases hcontainment

/-- A branch asks for less if its children have places among those of another one that ask
for no less. -/
theorem isLooserThan_branch (h : fewer ⊆ attributes)
    (hplaces : Assignment.Embeds IsLooserThan others children) :
    (branch name fewer others).IsLooserThan (branch name attributes children) := by
  intro mode hmode actual hfits
  obtain ⟨hequals, hany, honly⟩ :
      mode ≠ .equals ∧ mode ≠ .containsAny ∧ mode ≠ .containsOnly := by
    rcases List.mem_pair.1 hmode with rfl | rfl <;> simp
  rw [fits_branch_iff hequals hany] at hfits ⊢
  obtain ⟨htag, -, hembeds⟩ := hfits
  refine ⟨htag.of_subset hmode _ rfl h, fun hmode => absurd hmode honly, ?_⟩
  exact hplaces.trans hembeds fun _ _ _ _ item _ hlooser hfits => hlooser mode hmode item hfits

end ElementPattern

namespace Pattern

variable {registry : Registry} {limit room : Nat} {small big : Element} {p : ElementPattern}

theorem compileFields_of_sublist {α β : Type} {f : α → Except MatchError β}
    {fields others : Fields α} {results : Fields β} (hsublist : fields.Sublist others)
    (h : compileFields f others = .ok results) :
    ∃ fewer, compileFields f fields = .ok fewer ∧ fewer.Sublist results := by
  simp only [compileFields_eq_ok_iff] at h ⊢
  exact exists_forall₂_of_sublist hsublist h

/-- A branch whose children compile to looser patterns compiles to a looser pattern. -/
theorem exists_looser_branch (hsmall : small.isLeaf = false) (hbig : big.isLeaf = false)
    (hname : small.name = big.name) (hattributes : small.attributes.Sublist big.attributes)
    (hchildren : ∀ children,
      compileList (compileElement registry limit room) big.childElements = .ok children →
        ∃ others,
          compileList (compileElement registry limit room) small.childElements = .ok others ∧
            Assignment.Embeds ElementPattern.IsLooserThan others children)
    (hp : compileElement registry limit (room + 1) big = .ok p) :
    ∃ q, compileElement registry limit (room + 1) small = .ok q ∧ q.IsLooserThan p := by
  obtain ⟨attributes, children, hread, hcompiled, rfl⟩ := (compileElement_branch_iff hbig).1 hp
  obtain ⟨fewer, hfewer, hsublist⟩ := compileFields_of_sublist hattributes hread
  obtain ⟨others, hothers, hplaces⟩ := hchildren children hcompiled
  refine ⟨_, (compileElement_branch_iff hsmall).2 ⟨fewer, others, hfewer, hothers, rfl⟩, ?_⟩
  rw [hname]
  exact ElementPattern.isLooserThan_branch hsublist.subset hplaces

/-- An element that lacks a part, but no last child element, compiles to a looser pattern. -/
theorem exists_looser_of_lacksSparePart (h : small.LacksSparePart big)
    (hp : compileElement registry limit (room + 1) big = .ok p) :
    ∃ q, compileElement registry limit (room + 1) small = .ok q ∧ q.IsLooserThan p := by
  obtain ⟨hpart, hleaf⟩ := h
  cases hbig : big.isLeaf with
  | false =>
      refine exists_looser_branch (hleaf.trans hbig) hbig hpart.name_eq hpart.attributes_sublist
        ?_ hp
      intro children hcompiled
      rw [compileList_eq_ok_iff] at hcompiled
      obtain ⟨others, hothers, hsublist⟩ :=
        exists_forall₂_of_sublist hpart.childElements_sublist hcompiled
      refine ⟨others, compileList_eq_ok_iff.2 hothers, ?_⟩
      apply (Assignment.Embeds.of_sublist hsublist).mono
      rintro q _ _ _ rfl
      exact .refl _
  | true =>
      obtain ⟨attributes, text, hread, htext, rfl⟩ := (compileElement_leaf_iff hbig).1 hp
      obtain ⟨fewer, hfewer, hsublist⟩ := compileFields_of_sublist hpart.attributes_sublist hread
      refine ⟨_, (compileElement_leaf_iff (hleaf.trans hbig)).2
        ⟨fewer, text, hfewer, ?_, rfl⟩, ?_⟩
      · rw [hpart.text?_eq]
        exact htext
      · rw [hpart.name_eq]
        exact ElementPattern.isLooserThan_leaf hsublist.subset

/-- An element that asks for less at any depth compiles to a looser pattern. -/
theorem exists_looser_of_atDepth (h : small.AtDepth Element.LacksSparePart big) :
    ∀ {room : Nat} {p : ElementPattern}, compileElement registry limit room big = .ok p →
      ∃ q, compileElement registry limit room small = .ok q ∧ q.IsLooserThan p := by
  induction h with
  | here h =>
      intro room p hp
      cases room with
      | zero => cases hp
      | succ room => exact exists_looser_of_lacksSparePart h hp
  | @inside name attributes before after small big h ih =>
      intro room p hp
      cases room with
      | zero => cases hp
      | succ room =>
          refine exists_looser_branch (Element.isLeaf_around _ _ _ _ small)
            (Element.isLeaf_around _ _ _ _ big) rfl (List.Sublist.refl _) ?_ hp
          intro children hchildren
          rw [Element.childElements_around, compileList_eq_ok_iff] at hchildren
          have hsame : ∀ elements : List Element, List.Forall₂
              (fun e e' => e' = e ∨ e' = small ∧ e = big) elements elements :=
            fun elements => List.forall₂_same.2 fun e _ => .inl rfl
          have hrelated := List.rel_append (hsame (before.filterMap Content.element?))
            (.cons (.inr ⟨rfl, rfl⟩) (hsame (after.filterMap Content.element?)))
          have hstep : ∀ e e' p, (e' = e ∨ e' = small ∧ e = big) →
              compileElement registry limit room e = .ok p →
                ∃ q, compileElement registry limit room e' = .ok q ∧ q.IsLooserThan p := by
            rintro e e' p (rfl | ⟨rfl, rfl⟩) hp
            · exact ⟨p, hp, .refl p⟩
            · exact ih hp
          obtain ⟨others, hothers, hlooser⟩ := exists_forall₂_of_forall₂ hrelated hchildren hstep
          refine ⟨others, ?_, ?_⟩
          · rw [Element.childElements_around]
            exact compileList_eq_ok_iff.2 hothers
          · exact .of_forall₂ hlooser.flip

end Pattern

namespace Matcher

variable {m : Matcher} {mode : Mode} {e : Element}

theorem compile_element_iff {p : Pattern} :
    m.compile (.element e) = .ok p ↔ ∃ q,
      Pattern.compileElement m.registry m.settings.maxDepth (m.settings.maxDepth + 1) e = .ok q ∧
        Pattern.element q = p := by
  rw [compile, Pattern.compile, Pattern.compileWithin_of_not_string rfl, Pattern.compileParts,
    map_eq_ok_iff]

/-- What an expected element is compared as, and when the comparison passes. -/
theorem exists_of_compare_element {actual : Value} {c : Comparison} (hmode : mode.isNegated = false)
    (h : m.compare actual (.element e) mode = .ok c) (hpasses : c.passes = true) :
    ∃ p a, Pattern.compileElement m.registry m.settings.maxDepth (m.settings.maxDepth + 1) e =
        .ok p ∧ actual.unfolded m.settings = .element a ∧ p.Fits mode a := by
  obtain ⟨_, hcompile, heq⟩ := bind_eq_ok_iff.1 h
  cases heq
  obtain ⟨p, hp, rfl⟩ := compile_element_iff.1 hcompile
  obtain ⟨a, ha, hfits⟩ := Pattern.fits_element_iff.1 ((accepts_iff_fits mode hmode).1 hpasses)
  exact ⟨p, a, hp, ha, hfits⟩

end Matcher

/-- Asking for less.  Where an element is contained, it is also contained without any of its
attributes, or of the attributes of an element in it, and without any child element at any depth
that is not the last one of its parent.  Without child elements it is the text of an element that
is expected, and of an element with child elements only a marker accepts anything. -/
theorem asking_for_less_keeps_containment (m : Matcher) :
    (∀ small big : Element, small.AtDepth Element.LacksSparePart big →
      ∀ (actual : Value), ∀ mode ∈ [Mode.contains, .containsDeep], ∀ c,
        m.compare actual (.element big) mode = .ok c → c.passes = true →
          ∃ d, m.compare actual (.element small) mode = .ok d ∧ d.passes = true) ∧
    ∀ e actual : Element, e.isLeaf = true → actual.isLeaf = false →
      ∀ mode ∈ [Mode.contains, .containsDeep], ∀ c,
        m.compare (.element actual) (.element e) mode = .ok c → c.passes = true →
          ∃ attributes marker, m.compile (.element e) =
            .ok (.element (.leaf e.name attributes (.marker marker))) ∧
              marker.check (.element actual) = [] := by
  have hpositive : ∀ mode ∈ [Mode.contains, .containsDeep], mode.isNegated = false := by
    intro mode hmode
    rcases List.mem_pair.1 hmode with rfl | rfl <;> rfl
  constructor
  · intro small big h actual mode hmode c hc hpasses
    obtain ⟨p, a, hp, ha, hfits⟩ :=
      Matcher.exists_of_compare_element (hpositive mode hmode) hc hpasses
    obtain ⟨q, hq, hlooser⟩ := Pattern.exists_looser_of_atDepth h hp
    refine ⟨_, Matcher.compare_of_compile (Matcher.compile_element_iff.2 ⟨q, hq, rfl⟩) actual mode,
      ?_⟩
    apply (Matcher.accepts_iff_fits mode (hpositive mode hmode)).2
    exact Pattern.fits_element_iff.2 ⟨a, ha, hlooser mode hmode a hfits⟩
  · intro e actual hleaf hactual mode hmode c hc hpasses
    obtain ⟨p, a, hp, ha, hfits⟩ :=
      Matcher.exists_of_compare_element (hpositive mode hmode) hc hpasses
    cases ha
    obtain ⟨attributes, text, -, -, rfl⟩ := (Pattern.compileElement_leaf_iff hleaf).1 hp
    obtain ⟨marker, rfl, hcheck⟩ := ElementPattern.exists_marker_of_fits_leaf
      (Pattern.plain_of_compileElement hp) hactual hfits
    exact ⟨attributes, marker, Matcher.compile_element_iff.2 ⟨_, hp, rfl⟩, hcheck⟩

/-- An attribute of a child element may be left out, and a child element beside another one; of
a whole element without child elements only a marker is satisfied. -/
theorem attribute_and_child_left_out :
    let a : Element := ⟨"a", [("k", "1")], []⟩
    let big : Element := ⟨"r", [], [.element a, .element ⟨"b", [], []⟩]⟩
    (∃ d, Matcher.initial.compare (.element big)
        (.element ⟨"r", [], [.element ⟨"a", [], []⟩, .element ⟨"b", [], []⟩]⟩) .contains = .ok d ∧
      d.passes = true) ∧
    (∃ d, Matcher.initial.compare (.element big) (.element ⟨"r", [], [.element a]⟩) .containsDeep =
        .ok d ∧ d.passes = true) ∧
    ∃ attributes marker, Matcher.initial.compile (.element ⟨"r", [], [.text "#ignore"]⟩) =
      .ok (.element (.leaf "r" attributes (.marker marker))) ∧
        marker.check (.element big) = [] := by
  intro a big
  obtain ⟨hless, htext⟩ := asking_for_less_keeps_containment Matcher.initial
  let p : Pattern := .element (.branch "r" [] [
    .leaf "a" [("k", .literal (.string "1"))] (.literal .null), .leaf "b" [] (.literal .null)])
  have hcompile : Matcher.initial.compile (.element big) = .ok p := rfl
  have hequals : p.Fits Matcher.initial.settings .equals (.element big) := rfl
  have hcontains := (hequals.loosen .only).loosen .contains
  have hattribute : Element.AtDepth Element.LacksSparePart
      ⟨"r", [], [] ++ .element ⟨"a", [] ++ [], []⟩ :: [.element ⟨"b", [], []⟩]⟩
      ⟨"r", [], [] ++ .element ⟨"a", [] ++ ("k", "1") :: [], []⟩ :: [.element ⟨"b", [], []⟩]⟩ :=
    .inside (.here ⟨.withoutAttribute, rfl⟩)
  have hchild : Element.AtDepth Element.LacksSparePart ⟨"r", [], [.element a] ++ []⟩
      ⟨"r", [], [.element a] ++ .element ⟨"b", [], []⟩ :: []⟩ :=
    .here ⟨.withoutChild, rfl⟩
  refine ⟨?_, ?_, ?_⟩
  · apply hless _ big hattribute _ .contains (by simp) _ (Matcher.compare_of_compile hcompile _ _)
    exact (Matcher.accepts_iff_fits .contains rfl).2 hcontains
  · apply hless _ big hchild _ .containsDeep (by simp) _ (Matcher.compare_of_compile hcompile _ _)
    exact (Matcher.accepts_iff_fits .containsDeep rfl).2 (hcontains.loosen .deep)
  · exact htext _ big rfl rfl .contains (by simp) _ rfl rfl

/-- So what is asked for less is not always contained: an element without its only child element
is expected to have no text, and is not found in an element that has the child. -/
theorem last_child_not_left_out :
    let big : Element := ⟨"r", [], [.element ⟨"a", [], []⟩]⟩
    let small : Element := ⟨"r", [], []⟩
    (small.LacksPart big ∧
      (Matcher.initial.compare (.element big) (.element big) .contains).map Comparison.passes =
        .ok true ∧
      (Matcher.initial.compare (.element big) (.element small) .contains).map Comparison.passes =
        .ok false) ∧
    ¬ ∀ (m : Matcher) (small big : Element), small.AtDepth Element.LacksPart big →
      ∀ (actual : Element), ∀ mode ∈ [Mode.contains, .containsDeep], ∀ c,
        m.compare (.element actual) (.element big) mode = .ok c → c.passes = true →
          ∃ d, m.compare (.element actual) (.element small) mode = .ok d ∧ d.passes = true := by
  intro big small
  have hpart : Element.LacksPart ⟨"r", [], [] ++ []⟩
      ⟨"r", [], [] ++ .element ⟨"a", [], []⟩ :: []⟩ := .withoutChild
  let p : Pattern := .element (.branch "r" [] [.leaf "a" [] (.literal .null)])
  have hcompile : Matcher.initial.compile (.element big) = .ok p := rfl
  have hequals : p.Fits Matcher.initial.settings .equals (.element big) := rfl
  have hpasses : (Matcher.initial.compareWith (.element big) p .contains).passes = true :=
    (Matcher.accepts_iff_fits .contains rfl).2 ((hequals.loosen .only).loosen .contains)
  have hcompare := Matcher.compare_of_compile hcompile (.element big) .contains
  refine ⟨⟨hpart, ?_, rfl⟩, ?_⟩
  · rw [hcompare, Except.map, hpasses]
  · intro hall
    obtain ⟨d, hd, hpasses'⟩ :=
      hall Matcher.initial small big (.here hpart) big .contains (by simp) _ hcompare hpasses
    cases hd
    cases hpasses'

end DocMatch
