import DocMatch.Proofs.MarkerLevels
/-!
Patterns written back as values.  Where no text that a compilation reads starts with a
backslash, every literal and every marker is written back as the text it is read from, or as the
structure of the document that is read from it.  So the written value compiles to the pattern
again, at the same levels, and it is the value itself where this holds no elements and no
documents in texts.
-/

namespace DocMatch

/-- Whether a compilation of an element reads a text: the value of an attribute, or all of the
text of an element without child elements. -/
inductive Element.ReadsText : Element → String → Prop
  | attributeValue {e : Element} {name text : String} (h : (name, text) ∈ e.attributes) :
      ReadsText e text
  | text {e : Element} {text : String} (hleaf : e.isLeaf = true) (h : e.text? = some text) :
      ReadsText e text
  | child {e child : Element} {text : String} (hchild : child ∈ e.childElements)
      (h : ReadsText child text) : ReadsText e text

/-- Whether a compilation of a value reads a text, in the value or in a document that a text
holds. -/
inductive Value.ReadsText (settings : Settings) : Value → String → Prop
  | self (text : String) : ReadsText settings (.string text) text
  | document {holder text : String} {v : Value}
      (hdocument : Pattern.document? settings holder = some v) (h : ReadsText settings v text) :
      ReadsText settings (.string holder) text
  | item {items : List Value} {v : Value} {text : String} (hv : v ∈ items)
      (h : ReadsText settings v text) : ReadsText settings (.sequence items) text
  | entry {entries : Fields Value} {entry : String × Value} {text : String}
      (hentry : entry ∈ entries) (h : ReadsText settings entry.2 text) :
      ReadsText settings (.mapping entries) text
  | element {e : Element} {text : String} (h : e.ReadsText text) :
      ReadsText settings (.element e) text

/-- Whether a text does not start with a backslash. -/
def IsUnescaped (text : String) : Prop :=
  text.toList.head? ≠ some '\\'

instance : DecidablePred IsUnescaped := fun text =>
  inferInstanceAs (Decidable (text.toList.head? ≠ some '\\'))

theorem IsUnescaped.unescaped?_eq_none {text : String} (h : IsUnescaped text) :
    Pattern.unescaped? text = none := by
  unfold Pattern.unescaped?
  split
  · rename_i htext
    exact absurd (by rw [htext]; rfl) h
  · rfl

namespace ElementPattern

variable {name text : String} {attributes : Fields Leaf} {l : Leaf}

theorem isLeaf_toElement_leaf : (leaf name attributes l).toElement.isLeaf = true := by
  rw [toElement, Leaf.textChild.eq_def]
  split <;> rfl

theorem text?_toElement_leaf (h : l.textChild = [.text text]) :
    (leaf name attributes l).toElement.text? = some text := by
  simp [toElement, h, Element.text?, Content.text?]

theorem childElements_toElement_branch (children : List ElementPattern) :
    (branch name attributes children).toElement.childElements = children.map toElement := by
  rw [toElement, toChildren_eq_map, Element.childElements, List.filterMap_map]
  exact congrFun List.filterMap_eq_map' children

theorem isLeaf_toElement_branch (children : List ElementPattern) :
    (branch name attributes children).toElement.isLeaf = children.isEmpty := by
  rw [Element.isLeaf, childElements_toElement_branch, List.isEmpty_map]

end ElementPattern

namespace Pattern

section Lists

variable {α β : Type} {f : α → Except MatchError β} {back : β → α}

theorem isEmpty_of_compileList {values : List α} {results : List β}
    (h : compileList f values = .ok results) : results.isEmpty = values.isEmpty := by
  have hlength := (compileList_eq_ok_iff.1 h).length_eq
  rw [Bool.eq_iff_iff, List.isEmpty_iff_length_eq_zero, List.isEmpty_iff_length_eq_zero, hlength]

/-- Results that are each written back to something with that result are so as a list. -/
theorem compileList_back {values : List α} {results : List β}
    (h : compileList f values = .ok results)
    (hback : ∀ v ∈ values, ∀ r, f v = .ok r → f (back r) = .ok r) :
    compileList f (results.map back) = .ok results := by
  rw [compileList_eq_ok_iff] at h ⊢
  rw [List.forall₂_map_left_iff, List.forall₂_same]
  exact forall_of_forall₂ h hback

theorem compileFields_back {fields : Fields α} {results : Fields β}
    (h : compileFields f fields = .ok results)
    (hback : ∀ entry ∈ fields, ∀ r, f entry.2 = .ok r → f (back r) = .ok r) :
    compileFields f (Fields.mapValues back results) = .ok results := by
  rw [compileFields_eq_ok_iff] at h ⊢
  rw [Fields.mapValues, List.forall₂_map_left_iff, List.forall₂_same]
  exact forall_of_forall₂ h fun entry hentry r hr => ⟨rfl, hback entry hentry r.2 hr.2⟩

/-- Results that are each written back to what they come from are so as a list. -/
theorem map_eq_of_forall₂ {rel : α → β → Prop} {values : List α} {results : List β}
    (h : List.Forall₂ rel values results) (hback : ∀ v ∈ values, ∀ r, rel v r → back r = v) :
    results.map back = values := by
  induction h with
  | nil => rfl
  | cons hrel _ ih =>
      rw [List.forall_mem_cons] at hback
      rw [List.map_cons, hback.1 _ hrel, ih hback.2]

end Lists

variable {registry : Registry} {settings : Settings} {limit room : Nat} {text : String} {l : Leaf}

/-- Inside an element, a leaf is written as the text it is read from. -/
theorem text_of_readLeaf (htext : IsUnescaped text) (h : readLeaf registry text = .ok l) :
    l.text = text ∧ l.textChild = [.text text] := by
  unfold readLeaf at h
  rw [htext.unescaped?_eq_none] at h
  simp only at h
  split at h
  · rename_i m hread
    cases h
    have hmarker := Marker.text_of_read hread
    exact ⟨hmarker, congrArg (fun s => [Content.text s]) hmarker⟩
  · cases h
    exact ⟨rfl, rfl⟩
  · cases h

/-- Outside elements, a leaf is written as the text it is read from. -/
theorem toValue_of_readText (htext : IsUnescaped text)
    (h : readText registry settings text = .ok (.leaf l)) : l.toValue = .string text := by
  unfold readText at h
  rw [htext.unescaped?_eq_none] at h
  simp only at h
  split at h
  · rename_i m hread
    cases h
    exact congrArg Value.string (Marker.text_of_read hread)
  · cases h
  · split at h
    · cases h
    · cases h
      rfl

/-- The pattern of an element, written back, compiles to itself with the same room. -/
theorem compileElement_toElement :
    ∀ {e : Element} {p : ElementPattern}, (∀ text, e.ReadsText text → IsUnescaped text) →
      compileElement registry limit room e = .ok p →
      compileElement registry limit room p.toElement = .ok p := by
  induction room with
  | zero => exact nofun
  | succ room ih =>
      intro e p hplain h
      have hback : ∀ {attributes : Fields Leaf},
          compileFields (readLeaf registry) e.attributes = .ok attributes →
          compileFields (readLeaf registry) (Fields.mapValues Leaf.text attributes) =
            .ok attributes := by
        intro attributes hattributes
        refine compileFields_back hattributes fun entry hentry l hl => ?_
        rwa [(text_of_readLeaf (hplain _ (.attributeValue hentry)) hl).1]
      cases hleaf : e.isLeaf with
      | true =>
          obtain ⟨attributes, text, hattributes, htext, rfl⟩ := (compileElement_leaf_iff hleaf).1 h
          cases hread : e.text? with
          | none =>
              rw [hread] at htext
              cases htext
              exact (compileElement_leaf_iff rfl).2 ⟨_, _, hback hattributes, rfl, rfl⟩
          | some s =>
              rw [hread] at htext
              obtain ⟨-, hchild⟩ := text_of_readLeaf (hplain s (.text hleaf hread)) htext
              rw [compileElement_leaf_iff ElementPattern.isLeaf_toElement_leaf,
                ElementPattern.text?_toElement_leaf hchild]
              exact ⟨_, _, hback hattributes, htext, rfl⟩
      | false =>
          obtain ⟨attributes, children, hattributes, hchildren, rfl⟩ :=
            (compileElement_branch_iff hleaf).1 h
          have hbranch : (ElementPattern.branch e.name attributes children).toElement.isLeaf =
              false := by
            rw [ElementPattern.isLeaf_toElement_branch, isEmpty_of_compileList hchildren]
            exact hleaf
          rw [compileElement_branch_iff hbranch, ElementPattern.childElements_toElement_branch]
          refine ⟨_, _, hback hattributes, ?_, rfl⟩
          refine compileList_back hchildren fun child hchild r hr => ?_
          exact ih (fun text htext => hplain text (.child hchild htext)) hr

/-- The same for the parts of a value, if it holds for what is one level below. -/
theorem compileParts_toValue {inner : Value → Except MatchError Pattern}
    (hinner : ∀ {v p}, (∀ text, v.ReadsText settings text → IsUnescaped text) →
      inner v = .ok p → inner p.toValue = .ok p) {v : Value} {p : Pattern}
    (hplain : ∀ text, v.ReadsText settings text → IsUnescaped text) (hv : v.string? = none)
    (h : compileParts inner (compileElement registry limit room) v = .ok p) :
    p.toValue.string? = none ∧
      compileParts inner (compileElement registry limit room) p.toValue = .ok p := by
  cases v with
  | string text => cases hv
  | sequence items =>
      obtain ⟨results, hresults, rfl⟩ := map_eq_ok_iff.1 h
      refine ⟨rfl, ?_⟩
      rw [toValue, compileParts, toItems_eq_map, map_eq_ok_iff]
      refine ⟨_, compileList_back hresults fun v hv r hr => ?_, rfl⟩
      exact hinner (fun text htext => hplain text (.item hv htext)) hr
  | mapping entries =>
      obtain ⟨results, hresults, rfl⟩ := map_eq_ok_iff.1 h
      refine ⟨rfl, ?_⟩
      rw [toValue, compileParts, toEntries_eq_mapValues, map_eq_ok_iff]
      refine ⟨_, compileFields_back hresults fun entry hentry r hr => ?_, rfl⟩
      exact hinner (fun text htext => hplain text (.entry hentry htext)) hr
  | element e =>
      obtain ⟨result, hresult, rfl⟩ := map_eq_ok_iff.1 h
      refine ⟨rfl, ?_⟩
      rw [toValue, compileParts, map_eq_ok_iff]
      refine ⟨_, compileElement_toElement (fun text htext => ?_) hresult, rfl⟩
      exact hplain text (.element htext)
  | _ =>
      cases h
      exact ⟨rfl, rfl⟩

/-- The pattern of a value, written back, compiles to itself with the same room. -/
theorem compileWithin_toValue :
    ∀ {v : Value} {p : Pattern}, (∀ text, v.ReadsText settings text → IsUnescaped text) →
      compileWithin registry settings room v = .ok p →
      compileWithin registry settings room p.toValue = .ok p := by
  induction room with
  | zero => exact nofun
  | succ room ih =>
      intro v p hplain h
      have hparts : ∀ {w : Value}, w.string? = none →
          (∀ text, w.ReadsText settings text → IsUnescaped text) →
          compileParts (compileWithin registry settings room)
            (compileElement registry settings.maxDepth (room + 1)) w = .ok p →
          compileWithin registry settings (room + 1) p.toValue = .ok p := by
        intro w hw hplain h
        obtain ⟨hstring, hwritten⟩ := compileParts_toValue ih hplain hw h
        rwa [compileWithin_of_not_string hstring]
      cases hv : v.string? with
      | none =>
          rw [compileWithin_of_not_string hv] at h
          exact hparts hv hplain h
      | some text =>
          cases v with
          | string text =>
              obtain ⟨reading, hreading, hcompiled⟩ := bind_eq_ok_iff.1 h
              cases reading with
              | leaf l =>
                  cases hcompiled
                  rwa [toValue, toValue_of_readText (hplain text (.self text)) hreading]
              | document v =>
                  have hdocument := document?_of_readText hreading
                  have hcontainer := Value.isContainer_of_readDocument
                    (readDocument_of_document? hdocument)
                  exact hparts (Value.string?_of_isContainer hcontainer)
                    (fun text htext => hplain text (.document hdocument htext)) hcompiled
          | _ => cases hv

/-- Where nothing becomes structure but what is, the value itself is written back. -/
theorem toValue_of_compileWithin (v : Value) : ∀ {room : Nat} {p : Pattern},
    v.Everywhere Value.IsNoElement → v.Settled settings →
    (∀ text, v.ReadsText settings text → IsUnescaped text) →
    compileWithin registry settings room v = .ok p → p.toValue = v := by
  induction v using Value.induct with
  | leaf v hv =>
      intro room p _ hsettled hplain h
      cases room with
      | zero => cases h
      | succ room =>
          cases v with
          | string text =>
              obtain ⟨reading, hreading, hcompiled⟩ := bind_eq_ok_iff.1 h
              cases reading with
              | leaf l =>
                  cases hcompiled
                  rw [toValue, toValue_of_readText (hplain text (.self text)) hreading]
              | document v =>
                  have hdocument := document?_of_readText hreading
                  rw [hsettled.document?_eq_none] at hdocument
                  cases hdocument
          | sequence items => cases hv
          | mapping entries => cases hv
          | element e => cases hv
          | _ =>
              cases h
              rfl
  | sequence items ih =>
      intro room p helement hsettled hplain h
      cases room with
      | zero => cases h
      | succ room =>
          rw [compileWithin_of_not_string rfl] at h
          obtain ⟨results, hresults, rfl⟩ := map_eq_ok_iff.1 h
          rw [toValue, toItems_eq_map, map_eq_of_forall₂ (compileList_eq_ok_iff.1 hresults)]
          intro v hv r hr
          exact ih v hv (helement.item hv) (hsettled.item hv)
            (fun text htext => hplain text (.item hv htext)) hr
  | mapping entries ih =>
      intro room p helement hsettled hplain h
      cases room with
      | zero => cases h
      | succ room =>
          rw [compileWithin_of_not_string rfl] at h
          obtain ⟨results, hresults, rfl⟩ := map_eq_ok_iff.1 h
          rw [toValue, toEntries_eq_mapValues, Fields.mapValues,
            map_eq_of_forall₂ (compileFields_eq_ok_iff.1 hresults)]
          intro entry hentry r hr
          have hvalue := ih entry hentry (helement.entry hentry) (hsettled.entry hentry)
            (fun text htext => hplain text (.entry hentry htext)) hr.2
          exact Prod.ext hr.1.symm hvalue
  | element e =>
      intro room p helement
      exact absurd rfl (helement.self e)

end Pattern

/-- A pattern written back compiles to itself, if no text that has been read for it starts with
a backslash.  What is written back is the expected value itself, if this holds no elements and
no text of it holds a document. -/
theorem compile_written_back {m : Matcher} {v : Value} {p : Pattern} (h : m.compile v = .ok p)
    (hplain : ∀ text, v.ReadsText m.settings text → IsUnescaped text) :
    m.compile p.toValue = .ok p ∧
      (v.Everywhere Value.IsNoElement → v.Settled m.settings → p.toValue = v) :=
  ⟨Pattern.compileWithin_toValue hplain h, fun helement hsettled =>
    Pattern.toValue_of_compileWithin v helement hsettled hplain h⟩

/-- A text that holds an empty sequence is written back as that, a marker in an attribute as its
text, and a mapping that holds the marker as it is. -/
theorem compile_written_back_held_sequence :
    let marker := Leaf.marker (.sequence "#[]" false none none)
    let held := Pattern.sequence [.sequence [],
      .element (.leaf "a" [("b", marker)] (.literal .null))]
    Matcher.initial.compile (.sequence [.string "[]", .element ⟨"a", [("b", "#[]")], []⟩]) =
        .ok held ∧
      Matcher.initial.compile held.toValue = .ok held ∧
      (Pattern.mapping [("k", .leaf marker)]).toValue = .mapping [("k", .string "#[]")] := by
  intro marker held
  have hcompile : Matcher.initial.compile (.sequence [.string "[]",
      .element ⟨"a", [("b", "#[]")], []⟩]) = .ok held := rfl
  have hplain : Matcher.initial.compile (.mapping [("k", .string "#[]")]) =
      .ok (.mapping [("k", .leaf marker)]) := rfl
  have hempty : Pattern.document? Matcher.initial.settings "[]" = some (.sequence []) := rfl
  have hnone : Pattern.document? Matcher.initial.settings "#[]" = none := rfl
  refine ⟨hcompile, (compile_written_back hcompile ?_).1,
    (compile_written_back hplain ?_).2 ?_ fun _ => ?_⟩
  · rintro text (_ | _ | ⟨hv, h⟩)
    rcases List.mem_pair.1 hv with rfl | rfl
    · rcases h with _ | ⟨hdocument, h⟩
      · decide
      · cases hempty.symm.trans hdocument
        rcases h with _ | _ | ⟨hv, -⟩
        cases hv
    · rcases h with _ | _ | _ | _ | ⟨h⟩
      rcases h with hattribute | ⟨hleaf, h⟩ | ⟨hchild, -⟩
      · cases List.mem_singleton.1 hattribute
        decide
      · cases h
      · cases hchild
  · rintro text (_ | _ | _ | ⟨hentry, h⟩)
    obtain rfl := List.mem_singleton.1 hentry
    rcases h with _ | ⟨hdocument, -⟩
    · decide
    · cases hnone.symm.trans hdocument
  · rw [Value.everywhere_mapping_iff, List.forall_mem_singleton]
    exact ⟨nofun, nofun⟩
  · rw [Value.everywhere_mapping_iff, List.forall_mem_singleton]
    refine ⟨nofun, fun s document hs => ?_⟩
    cases hs
    exact nofun

end DocMatch
