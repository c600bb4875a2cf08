import DocMatch.Proofs.Nodes
import DocMatch.Proofs.Verdict
/-!
Inclusion of documents.  A scalar is included in an equal scalar, a mapping in one that
has all its keys and more, and a sequence in one where its items have distinct places, at
every level.  Inclusion is transitive where the numbers in the middle are exact.
-/

namespace DocMatch

namespace Element

/-- Whether one element has the name and all the attributes of another. -/
structure TagIncludedIn (small big : Element) : Prop where
  name_eq : big.name = small.name
  attributes : ∀ entry ∈ small.attributes, Fields.get? entry.1 big.attributes = some entry.2

/-- Whether an element is included in another: its tag is, and either neither has child
elements and the texts are the same, or its child elements have distinct places among
those of the other. -/
inductive IncludedIn : Element → Element → Prop
  | leaf {small big : Element} (tag : small.TagIncludedIn big) (hsmall : small.isLeaf = true)
      (hbig : big.isLeaf = true) (text_eq : big.text? = small.text?) : IncludedIn small big
  | branch {small big : Element} (tag : small.TagIncludedIn big) (hsmall : small.isLeaf = false)
      (place : Fin small.childElements.length → Fin big.childElements.length)
      (injective : Function.Injective place)
      (parts : ∀ i, IncludedIn small.childElements[i] big.childElements[place i]) :
      IncludedIn small big

variable {small middle big : Element}

theorem TagIncludedIn.trans (h : small.TagIncludedIn middle) (h' : middle.TagIncludedIn big) :
    small.TagIncludedIn big where
  name_eq := h'.name_eq.trans h.name_eq
  attributes entry hentry :=
    h'.attributes entry (Fields.mem_of_get? (h.attributes entry hentry))

theorem includedIn_leaf_iff (hsmall : small.isLeaf = true) :
    small.IncludedIn big ↔
      small.TagIncludedIn big ∧ big.isLeaf = true ∧ big.text? = small.text? := by
  constructor
  · intro h
    cases h with
    | leaf tag _ hbig text_eq => exact ⟨tag, hbig, text_eq⟩
    | branch _ hbranch => rw [hsmall] at hbranch; cases hbranch
  · exact fun ⟨tag, hbig, text_eq⟩ => .leaf tag hsmall hbig text_eq

theorem includedIn_branch_iff (hsmall : small.isLeaf = false) :
    small.IncludedIn big ↔
      small.TagIncludedIn big ∧
        Assignment.Embeds IncludedIn small.childElements big.childElements := by
  constructor
  · intro h
    cases h with
    | leaf _ hleaf => rw [hsmall] at hleaf; cases hleaf
    | branch tag _ place injective parts => exact ⟨tag, place, injective, parts⟩
  · exact fun ⟨tag, place, injective, parts⟩ => .branch tag hsmall place injective parts

/-- What has a place for a child element has child elements. -/
theorem isLeaf_eq_false_of_embeds {fits : Element → Element → Prop}
    (hsmall : small.isLeaf = false)
    (h : Assignment.Embeds fits small.childElements big.childElements) : big.isLeaf = false := by
  rw [isLeaf, List.isEmpty_eq_false_iff_exists_mem] at hsmall ⊢
  obtain ⟨child, hchild⟩ := hsmall
  have hpos : 0 < big.childElements.length :=
    Nat.lt_of_lt_of_le (List.length_pos_of_mem hchild) h.length_le
  exact ⟨_, List.getElem_mem hpos⟩

theorem IncludedIn.trans (small : Element) :
    ∀ {middle big : Element}, small.IncludedIn middle → middle.IncludedIn big →
      small.IncludedIn big := by
  induction small using Element.induct with
  | step small ih =>
      intro middle big h h'
      cases hsmall : small.isLeaf with
      | true =>
          obtain ⟨tag, hmiddle, text_eq⟩ := (includedIn_leaf_iff hsmall).1 h
          obtain ⟨tag', hbig, text_eq'⟩ := (includedIn_leaf_iff hmiddle).1 h'
          exact (includedIn_leaf_iff hsmall).2
            ⟨tag.trans tag', hbig, text_eq'.trans text_eq⟩
      | false =>
          obtain ⟨tag, places⟩ := (includedIn_branch_iff hsmall).1 h
          have hmiddle := isLeaf_eq_false_of_embeds hsmall places
          obtain ⟨tag', places'⟩ := (includedIn_branch_iff hmiddle).1 h'
          exact (includedIn_branch_iff hsmall).2
            ⟨tag.trans tag', places.trans places' fun child hchild _ _ _ _ => ih child hchild⟩

end Element

theorem Double.numericEq_trans {a b c : Double} (h : a.numericEq b = true)
    (h' : b.numericEq c = true) : a.numericEq c = true := by
  cases a <;> cases b <;> cases c <;> simp_all [numericEq]
  grind

/-- Equality of numbers by value passes through an exact number. -/
theorem Number.numericEq_trans {a c : Number} {d : Decimal}
    (h : a.numericEq (.decimal d) = true) (h' : (Number.decimal d).numericEq c = true) :
    a.numericEq c = true := by
  cases a with
  | decimal a =>
      obtain rfl : a = d := by simpa [numericEq] using h
      exact h'
  | double x =>
      cases c with
      | decimal c =>
          obtain rfl : d = c := by simpa [numericEq] using h'
          exact h
      | double y => exact Double.numericEq_trans h h'

namespace Value

/-- Whether a value is no inexact number. -/
def HoldsNoDouble (v : Value) : Prop :=
  ∀ x, v ≠ .number (.double x)

/-- Whether a value is included in another. -/
inductive IncludedIn : Value → Value → Prop
  | leaf {small big : Value} (hsmall : small.isContainer = false)
      (same : big.sameAs small = true) : IncludedIn small big
  | sequence {items others : List Value} (place : Fin items.length → Fin others.length)
      (injective : Function.Injective place)
      (parts : ∀ i, IncludedIn items[i] others[place i]) :
      IncludedIn (.sequence items) (.sequence others)
  | mapping {entries others : Fields Value}
      (keys : ∀ entry ∈ entries, entry.1 ∈ Fields.keys others)
      (parts : ∀ entry ∈ entries, ∀ v, Fields.get? entry.1 others = some v →
        IncludedIn entry.2 v) :
      IncludedIn (.mapping entries) (.mapping others)
  | element {e other : Element} (h : e.IncludedIn other) :
      IncludedIn (.element e) (.element other)

variable {small middle big : Value}

theorem includedIn_leaf_iff (hsmall : small.isContainer = false) :
    small.IncludedIn big ↔ big.sameAs small = true := by
  constructor
  · intro h
    cases h with
    | leaf _ same => exact same
    | sequence => cases hsmall
    | mapping => cases hsmall
    | element => cases hsmall
  · exact .leaf hsmall

theorem includedIn_sequence_iff {items : List Value} :
    (Value.sequence items).IncludedIn big ↔
      ∃ others, big = .sequence others ∧ Assignment.Embeds IncludedIn items others := by
  constructor
  · intro h
    cases h with
    | leaf hsmall => cases hsmall
    | sequence place injective parts => exact ⟨_, rfl, place, injective, parts⟩
  · rintro ⟨others, rfl, place, injective, parts⟩
    exact .sequence place injective parts

theorem includedIn_mapping_iff {entries : Fields Value} :
    (Value.mapping entries).IncludedIn big ↔
      ∃ others, big = .mapping others ∧ ∀ entry ∈ entries,
        ∃ v, Fields.get? entry.1 others = some v ∧ entry.2.IncludedIn v := by
  constructor
  · intro h
    cases h with
    | leaf hsmall => cases hsmall
    | mapping keys parts =>
        refine ⟨_, rfl, fun entry hentry => ?_⟩
        obtain ⟨v, hget⟩ := Fields.mem_keys_iff.1 (keys entry hentry)
        exact ⟨v, hget, parts entry hentry v hget⟩
  · rintro ⟨others, rfl, hentries⟩
    refine .mapping (fun entry hentry => ?_) fun entry hentry v hget => ?_
    · obtain ⟨v, hget, -⟩ := hentries entry hentry
      exact Fields.mem_keys_iff.2 ⟨v, hget⟩
    · obtain ⟨w, hget', hincluded⟩ := hentries entry hentry
      rw [hget] at hget'
      cases hget'
      exact hincluded

theorem includedIn_element_iff {e : Element} :
    (Value.element e).IncludedIn big ↔ ∃ other, big = .element other ∧ e.IncludedIn other := by
  constructor
  · intro h
    cases h with
    | leaf hsmall => cases hsmall
    | element h => exact ⟨_, rfl, h⟩
  · rintro ⟨other, rfl, h⟩
    exact .element h

/-- Only containers include containers. -/
theorem IncludedIn.isContainer (h : small.IncludedIn big) (hsmall : small.isContainer = true) :
    big.isContainer = true := by
  cases h with
  | leaf hleaf => rw [hleaf] at hsmall; cases hsmall
  | _ => rfl

/-- Equality of leaves passes through a value that is no inexact number. -/
theorem sameAs_trans_of_leaf (hsmall : small.isContainer = false) (hmiddle : middle.HoldsNoDouble)
    (h : middle.sameAs small = true) (h' : big.sameAs middle = true) :
    big.sameAs small = true := by
  have hkind := kind_eq_of_sameAs h
  have hkind' := kind_eq_of_sameAs h'
  cases small with
  | number n =>
      cases middle with
      | number m =>
          cases big with
          | number k =>
              cases m with
              | decimal d =>
                  rw [sameAs] at h h' ⊢
                  exact Number.numericEq_trans h' h
              | double x => exact absurd rfl (hmiddle x)
          | _ => cases hkind'
      | _ => cases hkind
  | sequence items => cases hsmall
  | mapping entries => cases hsmall
  | element e => cases hsmall
  | _ =>
      cases middle <;> cases hkind
      cases big <;> cases hkind'
      simp_all [sameAs]

/-- Inclusion is transitive if every number in the middle is exact. -/
theorem IncludedIn.trans (small : Value) :
    ∀ {middle big : Value}, middle.Everywhere HoldsNoDouble → small.IncludedIn middle →
      middle.IncludedIn big → small.IncludedIn big := by
  induction small using Value.induct with
  | leaf small hsmall =>
      intro middle big hexact h h'
      rw [includedIn_leaf_iff hsmall] at h ⊢
      have hmiddle : middle.isContainer = false := by
        rw [Value.isContainer, kind_eq_of_sameAs h]
        exact hsmall
      exact sameAs_trans_of_leaf hsmall hexact.self h ((includedIn_leaf_iff hmiddle).1 h')
  | sequence items ih =>
      intro middle big hexact h h'
      obtain ⟨middles, rfl, places⟩ := includedIn_sequence_iff.1 h
      obtain ⟨others, rfl, places'⟩ := includedIn_sequence_iff.1 h'
      exact includedIn_sequence_iff.2 ⟨others, rfl, places.trans places'
        fun item hitem middle hmiddle _ _ => ih item hitem (hexact.item hmiddle)⟩
  | mapping entries ih =>
      intro middle big hexact h h'
      obtain ⟨middles, rfl, hentries⟩ := includedIn_mapping_iff.1 h
      obtain ⟨others, rfl, hentries'⟩ := includedIn_mapping_iff.1 h'
      refine includedIn_mapping_iff.2 ⟨others, rfl, fun entry hentry => ?_⟩
      obtain ⟨v, hget, hincluded⟩ := hentries entry hentry
      have hmem := Fields.mem_of_get? hget
      obtain ⟨w, hget', hincluded'⟩ := hentries' _ hmem
      exact ⟨w, hget', ih entry hentry (hexact.entry hmem) hincluded hincluded'⟩
  | element e =>
      intro middle big _ h h'
      obtain ⟨middle, rfl, hincluded⟩ := includedIn_element_iff.1 h
      obtain ⟨other, rfl, hincluded'⟩ := includedIn_element_iff.1 h'
      exact includedIn_element_iff.2 ⟨other, rfl, hincluded.trans _ hincluded'⟩

end Value

end DocMatch
