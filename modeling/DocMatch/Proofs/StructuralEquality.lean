import DocMatch.Proofs.Escaped
import DocMatch.Proofs.Verdict
/-!
Equality with an escaped document.  Whatever its texts hold, an escaped document equals
exactly the values with the same structure and the same leaves; of the text in elements
only that of elements without child elements counts.
-/

namespace DocMatch

/-- Relations that agree on the items of two lists relate them in the same way. -/
theorem forall₂_congr_of_mem {α β : Type} {rel rel' : α → β → Prop} {as : List α} {bs : List β}
    (h : ∀ a ∈ as, ∀ b ∈ bs, (rel a b ↔ rel' a b)) :
    List.Forall₂ rel as bs ↔ List.Forall₂ rel' as bs := by
  rw [List.forall₂_iff_get, List.forall₂_iff_get]
  apply and_congr_right
  intro _
  apply forall_congr'
  intro i
  apply forall₂_congr
  intro ha hb
  exact h _ (List.get_mem as ⟨i, ha⟩) _ (List.get_mem bs ⟨i, hb⟩)

theorem forall₂_comm {α β : Type} {rel : α → β → Prop} {as : List α} {bs : List β} :
    List.Forall₂ rel as bs ↔ List.Forall₂ (fun b a => rel a b) bs as :=
  ⟨fun h => List.Forall₂.flip h, fun h => List.Forall₂.flip h⟩

namespace Element

mutual

/-- Equality of elements that ignores text beside child elements: name, attributes in any
order, and either the whole text of two elements without child elements, or the child
elements in order. -/
def sameContent : Element → Element → Bool
  | ⟨name, attributes, children⟩, other =>
      name == other.name && sameAttributes attributes other.attributes &&
        if Element.isLeaf ⟨name, attributes, children⟩ then
          other.isLeaf && Element.text? ⟨name, attributes, children⟩ == other.text?
        else !other.isLeaf && sameChildElements children other.childElements

/-- Equality of the child elements, one by one. -/
def sameChildElements : List (Content Element) → List Element → Bool
  | [], [] => true
  | .text _ :: rest, others => sameChildElements rest others
  | .element e :: rest, other :: others => e.sameContent other && sameChildElements rest others
  | _, _ => false

end

theorem sameChildElements_iff {children : List (Content Element)} {others : List Element} :
    sameChildElements children others = true ↔
      List.Forall₂ (fun e other => e.sameContent other = true)
        (children.filterMap Content.element?) others := by
  induction children generalizing others with
  | nil => cases others <;> simp [sameChildElements]
  | cons content rest ih =>
      cases content with
      | text t =>
          rw [sameChildElements, ih]
          rfl
      | element e =>
          cases others with
          | nil => simp [sameChildElements]
          | cons other others =>
              rw [sameChildElements, Bool.and_eq_true, ih, filterMap_element?_element,
                List.forall₂_cons]

theorem sameContent_iff {e other : Element} :
    e.sameContent other = true ↔
      e.name = other.name ∧ sameAttributes e.attributes other.attributes = true ∧
        (e.isLeaf = true ∧ other.isLeaf = true ∧ e.text? = other.text? ∨
          e.isLeaf = false ∧ other.isLeaf = false ∧
            List.Forall₂ (fun a b => a.sameContent b = true) e.childElements
              other.childElements) := by
  obtain ⟨name, attributes, children⟩ := e
  have hchildren : sameChildElements children other.childElements = true ↔
      List.Forall₂ (fun a b => a.sameContent b = true)
        (Element.childElements ⟨name, attributes, children⟩) other.childElements :=
    sameChildElements_iff
  rw [sameContent, Bool.and_eq_true, Bool.and_eq_true, beq_iff_eq, and_assoc]
  apply and_congr_right
  intro _
  apply and_congr_right
  intro _
  cases hleaf : Element.isLeaf ⟨name, attributes, children⟩ with
  | true => simp
  | false => simp [← hchildren]

theorem sameAttributes_iff {a b : Fields String} :
    sameAttributes a b = true ↔
      a.length = b.length ∧ ∀ entry ∈ a, ∃ s, Fields.get? entry.1 b = some s ∧ s = entry.2 := by
  simp [sameAttributes]

end Element

namespace Value

section SameUpTo

variable (same : Element → Element → Bool)

mutual

/-- Equality of values, with elements compared by `same`. -/
def sameUpTo : Value → Value → Bool
  | .sequence a, .sequence b => sameItemsUpTo a b
  | .mapping a, .mapping b => a.length == b.length && sameEntriesUpTo a b
  | .element a, .element b => same a b
  | a, b => a.sameAs b

/-- Equality of items, one by one. -/
def sameItemsUpTo : List Value → List Value → Bool
  | [], [] => true
  | a :: as, b :: bs => a.sameUpTo b && sameItemsUpTo as bs
  | _, _ => false

/-- Whether every entry has an equal one under the same key in `others`. -/
def sameEntriesUpTo : Fields Value → Fields Value → Bool
  | [], _ => true
  | (key, a) :: rest, others =>
      (match Fields.get? key others with
        | some b => a.sameUpTo b
        | none => false) && sameEntriesUpTo rest others

end

end SameUpTo

variable {same : Element → Element → Bool}

/-- Leaves are compared by the equality of values. -/
theorem sameUpTo_of_leaf {v w : Value} (h : v.isContainer = false ∨ w.isContainer = false) :
    v.sameUpTo same w = v.sameAs w := by
  rcases h with h | h
  · cases v with
    | sequence items => cases h
    | mapping entries => cases h
    | element e => cases h
    | _ => rw [sameUpTo] <;> simp
  · cases w with
    | sequence items => cases h
    | mapping entries => cases h
    | element e => cases h
    | _ => rw [sameUpTo] <;> simp

theorem sameItemsUpTo_iff {a b : List Value} :
    sameItemsUpTo same a b = true ↔
      List.Forall₂ (fun x y => x.sameUpTo same y = true) a b := by
  induction a generalizing b with
  | nil => cases b <;> simp [sameItemsUpTo]
  | cons x rest ih =>
      cases b with
      | nil => simp [sameItemsUpTo]
      | cons y others => rw [sameItemsUpTo, Bool.and_eq_true, ih, List.forall₂_cons]

theorem sameEntriesUpTo_iff {a b : Fields Value} :
    sameEntriesUpTo same a b = true ↔
      ∀ entry ∈ a, ∃ y, Fields.get? entry.1 b = some y ∧ entry.2.sameUpTo same y = true := by
  induction a with
  | nil => simp [sameEntriesUpTo]
  | cons entry rest ih =>
      obtain ⟨key, x⟩ := entry
      rw [sameEntriesUpTo, Bool.and_eq_true, ih, List.forall_mem_cons]
      apply and_congr_left
      intro _
      cases Fields.get? key b <;> simp

theorem sameItemsUpTo_sameAs {a : List Value}
    (h : ∀ v ∈ a, ∀ w, v.sameUpTo Element.sameAs w = v.sameAs w) :
    ∀ b, sameItemsUpTo Element.sameAs a b = sameItems a b := by
  induction a with
  | nil =>
      intro b
      cases b <;> rfl
  | cons x rest ih =>
      intro b
      cases b with
      | nil => rfl
      | cons y others =>
          rw [sameItemsUpTo, sameItems, h x List.mem_cons_self,
            ih fun v hv => h v (List.mem_cons_of_mem _ hv)]

theorem sameEntriesUpTo_sameAs {a b : Fields Value}
    (h : ∀ entry ∈ a, ∀ w, entry.2.sameUpTo Element.sameAs w = entry.2.sameAs w) :
    sameEntriesUpTo Element.sameAs a b = sameEntries a b := by
  induction a with
  | nil => rfl
  | cons entry rest ih =>
      have hrest := ih fun other hother => h other (List.mem_cons_of_mem _ hother)
      rw [sameEntriesUpTo, sameEntries, hrest]
      cases Fields.get? entry.1 b with
      | none => rfl
      | some w => simp only [h entry List.mem_cons_self]

/-- With the equality of elements itself, nothing but the equality of values is meant. -/
theorem sameUpTo_sameAs (v : Value) : ∀ w, v.sameUpTo Element.sameAs w = v.sameAs w := by
  induction v using Value.induct with
  | leaf v hv => exact fun w => sameUpTo_of_leaf (Or.inl hv)
  | sequence items ih =>
      intro w
      cases w with
      | sequence others => rw [sameUpTo, sameAs, sameItemsUpTo_sameAs ih]
      | _ => rfl
  | mapping entries ih =>
      intro w
      cases w with
      | mapping others => rw [sameUpTo, sameAs, sameEntriesUpTo_sameAs ih]
      | _ => rfl
  | element e =>
      intro w
      cases w <;> rfl

end Value

/-- Where no expected entry may be missing, all entries fit and no other key is there if
and only if the sizes are equal and every actual entry fits the expected one. -/
theorem Fields.within_and_eachFits_iff {α β ε : Type} {p : ε → Prop}
    {q : ε → α → Prop} {f : β → ε} {expected : Fields β} {actual : Fields α}
    (hexpected : expected.Distinct) (hactual : actual.Distinct)
    (hlack : ∀ entry ∈ expected, ¬ p (f entry.2)) :
    KeysWithin actual (mapValues f expected) ∧ EachFits p q (mapValues f expected) actual ↔
      actual.length = expected.length ∧
        ∀ entry ∈ actual, ∃ e, get? entry.1 expected = some e ∧ q (f e) entry.2 := by
  rw [← keysWithin_and_forall_iff hexpected hactual fun e v => q (f e) v, KeysWithin,
    keys_mapValues, EachFits, mapValues, List.forall_mem_map]
  apply and_congr_right
  intro _
  apply forall₂_congr
  intro entry hentry
  rw [EntryFits]
  cases get? entry.1 actual with
  | none => simpa using hlack entry hentry
  | some v => simp

theorem Leaf.fits_literal_string_iff {s t : String} :
    (Leaf.literal (.string s)).Fits .equals (.string t) ↔ s = t := by
  rw [fits_literal_iff]
  simpa [Mode.isContainment, Value.sameAs] using eq_comm

namespace Element

variable {e actual : Element}

theorem tagFits_literally_iff {p : ElementPattern} (hname : p.name = e.name)
    (hattributes : p.attributes = Fields.mapValues (fun s => .literal (.string s)) e.attributes)
    (he : Fields.Distinct e.attributes) (hactual : Fields.Distinct actual.attributes) :
    p.TagFits .equals actual ↔
      actual.name = e.name ∧ sameAttributes actual.attributes e.attributes = true := by
  have htag : p.TagFits .equals actual ↔ actual.name = p.name ∧
      Fields.KeysWithin actual.attributes p.attributes ∧
        Fields.EachFits (·.allowsAbsent = true) (fun l s => l.Fits .equals (.string s))
          p.attributes actual.attributes := by
    constructor
    · exact fun h => ⟨h.name_eq, h.within rfl, h.attributes⟩
    · exact fun ⟨hname, hwithin, hfits⟩ => ⟨hname, fun _ => hwithin, hfits⟩
  rw [htag, hname, hattributes,
    Fields.within_and_eachFits_iff he hactual (by simp [Leaf.allowsAbsent]), sameAttributes_iff]
  simp only [Leaf.fits_literal_string_iff]

/-- The text of an element is compared only with that of an element without child
elements. -/
theorem fits_literal_text_iff :
    (Leaf.literal (.ofString? e.text?)).Fits .equals (ElementPattern.textValue actual) ↔
      actual.isLeaf = true ∧ actual.text? = e.text? := by
  rw [Leaf.fits_literal_iff, ElementPattern.textValue]
  cases actual.isLeaf <;> cases actual.text? <;> cases e.text? <;>
    simp [Mode.isContainment, Value.ofString?, Value.sameAs]

theorem isLeaf_eq_of_length_eq (h : e.childElements.length = actual.childElements.length) :
    e.isLeaf = actual.isLeaf := by
  rw [isLeaf, isLeaf, Bool.eq_iff_iff, List.isEmpty_iff_length_eq_zero,
    List.isEmpty_iff_length_eq_zero, h]

/-- The literal pattern of an element is fitted by the elements of the same content. -/
theorem fits_literally_iff (e : Element) :
    ∀ {actual : Element}, e.WellFormed → actual.WellFormed →
      (e.literally.Fits .equals actual ↔ actual.sameContent e = true) := by
  induction e using Element.induct with
  | step e ih =>
      intro actual he hactual
      obtain ⟨hdistinct, hchildren⟩ := wellFormed_iff.1 he
      obtain ⟨hactualDistinct, hactualChildren⟩ := wellFormed_iff.1 hactual
      rw [sameContent_iff]
      cases hleaf : e.isLeaf with
      | true =>
          rw [literally_of_isLeaf hleaf, ElementPattern.fits_leaf_iff,
            tagFits_literally_iff rfl rfl hdistinct hactualDistinct, fits_literal_text_iff]
          simp [and_assoc]
      | false =>
          rw [literally_of_not_isLeaf hleaf, ElementPattern.fits_branch_equals_iff,
            tagFits_literally_iff rfl rfl hdistinct hactualDistinct, List.forall₂_map_left_iff,
            forall₂_comm, forall₂_congr_of_mem fun item hitem child hchild =>
              ih child hchild (hchildren child hchild) (hactualChildren item hitem)]
          have hnot : List.Forall₂ (fun item child => item.sameContent child = true)
              actual.childElements e.childElements → actual.isLeaf = false :=
            fun hitems => (isLeaf_eq_of_length_eq hitems.length_eq).trans hleaf
          simpa [and_assoc] using fun _ _ => hnot

end Element

namespace Value

variable {settings : Settings}

theorem allowsAbsent_literally (v : Value) : v.literally.allowsAbsent = false := by
  cases v <;> rfl

/-- The literal pattern of a value is fitted by the values that are equal to it up to
text beside child elements. -/
theorem fits_literally_iff (v : Value) :
    ∀ {actual : Value}, v.WellFormed → actual.WellFormed → actual.Settled settings →
      (v.literally.Fits settings .equals actual ↔
        actual.sameUpTo Element.sameContent v = true) := by
  induction v using Value.induct with
  | leaf v hv =>
      intro actual _ _ _
      rw [literally_of_leaf hv, sameUpTo_of_leaf (Or.inr hv), Pattern.fits_leaf, Leaf.fits_literal_iff]
      simp [Mode.isContainment]
  | sequence items ih =>
      intro actual hv hactual hsettled
      rw [literally, literallyItems_eq_map, Pattern.fits_sequence_equals_iff, hsettled.unfolded]
      cases actual with
      | sequence others =>
          rw [sameUpTo, sameItemsUpTo_iff, forall₂_comm]
          simp only [sequence.injEq, exists_eq_left', List.forall₂_map_left_iff]
          apply forall₂_congr_of_mem
          intro item hitem other hother
          exact ih item hitem (wellFormed_sequence_iff.1 hv item hitem)
            (wellFormed_sequence_iff.1 hactual other hother) (hsettled.item hother)
      | _ => simp [sameUpTo, sameAs]
  | mapping entries ih =>
      intro actual hv hactual hsettled
      rw [literally, literallyEntries_eq_mapValues, Pattern.fits_mapping_equals_iff,
        hsettled.unfolded]
      cases actual with
      | mapping others =>
          obtain ⟨hdistinct, hvalues⟩ := wellFormed_mapping_iff.1 hv
          obtain ⟨hothersDistinct, hothers⟩ := wellFormed_mapping_iff.1 hactual
          rw [sameUpTo, Bool.and_eq_true, beq_iff_eq, sameEntriesUpTo_iff]
          simp only [mapping.injEq, exists_eq_left']
          rw [Fields.within_and_eachFits_iff hdistinct hothersDistinct
            (by simp [allowsAbsent_literally])]
          apply and_congr_right
          intro _
          apply forall₂_congr
          intro other hother
          apply exists_congr
          intro item
          apply and_congr_right
          intro hget
          have hitem := Fields.mem_of_get? hget
          exact ih _ hitem (hvalues _ hitem) (hothers _ hother) (hsettled.entry hother)
      | _ => simp [sameUpTo, sameAs]
  | element e =>
      intro actual hv hactual hsettled
      rw [literally, Pattern.fits_element_iff, hsettled.unfolded]
      cases actual with
      | element other =>
          rw [sameUpTo, ← Element.fits_literally_iff e hv hactual]
          simp
      | _ => simp [sameUpTo, sameAs]

end Value

/-- An escaped document that is not nested too deeply always compiles, and equals exactly
the values with the same content, whatever its texts hold. -/
theorem equals_escaped_iff_sameContent (m : Matcher) {v : Value}
    (hdepth : v.depth ≤ m.settings.maxDepth) :
    (∃ p, m.compile v.escaped = .ok p) ∧
      (v.WellFormed → ∀ actual : Value, actual.WellFormed → actual.Settled m.settings →
        ∃ c, m.compare actual v.escaped .equals = .ok c ∧
          (c.passes = true ↔ actual.sameUpTo Element.sameContent v = true)) := by
  have hcompile : m.compile v.escaped = .ok v.literally := Pattern.compile_escaped hdepth
  refine ⟨⟨_, hcompile⟩, ?_⟩
  intro hv actual hactual hsettled
  refine ⟨_, Matcher.compare_of_compile hcompile actual .equals, ?_⟩
  rw [← Value.fits_literally_iff v hv hactual hsettled]
  exact Matcher.accepts_iff_fits .equals rfl

/-- Texts that look like a marker and like a document are compared literally, and the
order of keys does not matter. -/
theorem equals_escaped_marker_texts :
    ∃ c, Matcher.initial.compare
        (.mapping [("b", .string "[1"), ("a", .string "#string")])
        (Value.mapping [("a", .string "#string"), ("b", .string "[1")]).escaped .equals = .ok c ∧
      c.passes = true := by
  obtain ⟨-, hequals⟩ := equals_escaped_iff_sameContent Matcher.initial
    (v := .mapping [("a", .string "#string"), ("b", .string "[1")]) (by decide)
  have hexpected : (Value.mapping [("a", .string "#string"), ("b", .string "[1")]).WellFormed := by
    simp [Value.WellFormed, Value.WellFormedEntries, Fields.Distinct, Fields.keys]
  have hactual : (Value.mapping [("b", .string "[1"), ("a", .string "#string")]).WellFormed := by
    simp [Value.WellFormed, Value.WellFormedEntries, Fields.Distinct, Fields.keys]
  have hsettled : (Value.mapping [("b", .string "[1"), ("a", .string "#string")]).Settled
      Matcher.initial.settings := by
    intro _
    refine Value.everywhere_mapping_iff.2 ⟨by rintro s document ⟨⟩, ?_⟩
    simp only [List.forall_mem_cons, List.not_mem_nil, false_imp_iff, implies_true, and_true]
    constructor
    · rintro s document ⟨⟩ h
      cases h
    · rintro s document ⟨⟩ h
      cases h
  obtain ⟨c, hc, hpasses⟩ := hequals hexpected _ hactual hsettled
  exact ⟨c, hc, hpasses.2 (by decide)⟩

end DocMatch
