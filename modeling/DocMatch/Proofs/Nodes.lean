import DocMatch.Comparison.Difference
import Mathlib.Data.List.Basic
/-!
The nodes of values and elements: induction over them, what well-formedness says of
the parts, and properties that hold at every node.
-/

namespace DocMatch

theorem Element.mem_childElements {e child : Element} :
    child ∈ e.childElements ↔ .element child ∈ e.children := by
  simp only [childElements, List.mem_filterMap]
  constructor
  · rintro ⟨content, hcontent, helement⟩
    cases content with
    | element other =>
        cases helement
        exact hcontent
    | text t => cases helement
  · exact fun h => ⟨_, h, rfl⟩

/-- Induction over elements: what holds of all child elements holds of the element. -/
theorem Element.induct {motive : Element → Prop}
    (step : ∀ e : Element, (∀ child ∈ e.childElements, motive child) → motive e) :
    ∀ e, motive e := by
  intro e
  apply step e
  intro child hchild
  have hlt : sizeOf child < sizeOf e := by
    have hmem := List.sizeOf_lt_of_mem (mem_childElements.1 hchild)
    obtain ⟨name, attributes, children⟩ := e
    simp only [Content.element.sizeOf_spec, Element.mk.sizeOf_spec] at hmem ⊢
    omega
  exact induct step child
termination_by e => sizeOf e

/-- Induction over values: what holds of all parts of a sequence or mapping holds of the
whole. -/
theorem Value.induct {motive : Value → Prop} (leaf : ∀ v, v.isContainer = false → motive v)
    (sequence : ∀ items, (∀ v ∈ items, motive v) → motive (.sequence items))
    (mapping : ∀ entries, (∀ entry ∈ entries, motive entry.2) → motive (.mapping entries))
    (element : ∀ e, motive (.element e)) : ∀ v, motive v
  | .sequence items => sequence items fun v _ => induct leaf sequence mapping element v
  | .mapping entries =>
      mapping entries fun (key, v) hentry =>
        have : sizeOf v < sizeOf entries := by
          have hlt := List.sizeOf_lt_of_mem hentry
          simp only [Prod.mk.sizeOf_spec] at hlt
          omega
        induct leaf sequence mapping element v
  | .element e => element e
  | .null => leaf .null rfl
  | .bool b => leaf (.bool b) rfl
  | .number n => leaf (.number n) rfl
  | .string s => leaf (.string s) rfl
  | .bytes data => leaf (.bytes data) rfl
  | .foreign typeName text => leaf (.foreign typeName text) rfl

namespace Element

theorem wellFormedChildren_iff {children : List (Content Element)} :
    WellFormedChildren children ↔
      ∀ child, .element child ∈ children → child.WellFormed := by
  induction children with
  | nil => simp [WellFormedChildren]
  | cons content rest ih => cases content <;> simp [WellFormedChildren, ih]

theorem wellFormed_iff {e : Element} :
    e.WellFormed ↔
      Fields.Distinct e.attributes ∧ ∀ child ∈ e.childElements, child.WellFormed := by
  obtain ⟨name, attributes, children⟩ := e
  simp only [WellFormed, wellFormedChildren_iff, mem_childElements]

mutual

/-- Whether a property holds of an element and of all elements in it. -/
def Everywhere (P : Element → Prop) : Element → Prop
  | ⟨name, attributes, children⟩ => P ⟨name, attributes, children⟩ ∧ EveryChild P children

/-- Whether a property holds everywhere in all child elements. -/
def EveryChild (P : Element → Prop) : List (Content Element) → Prop
  | [] => True
  | .element e :: rest => e.Everywhere P ∧ EveryChild P rest
  | .text _ :: rest => EveryChild P rest

end

theorem everyChild_iff {P : Element → Prop} {children : List (Content Element)} :
    EveryChild P children ↔ ∀ child, .element child ∈ children → child.Everywhere P := by
  induction children with
  | nil => simp [EveryChild]
  | cons content rest ih => cases content <;> simp [EveryChild, ih]

theorem everywhere_iff {P : Element → Prop} {e : Element} :
    e.Everywhere P ↔ P e ∧ ∀ child ∈ e.childElements, child.Everywhere P := by
  obtain ⟨name, attributes, children⟩ := e
  simp only [Everywhere, everyChild_iff, mem_childElements]

end Element

namespace Value

theorem wellFormed_sequence_iff {items : List Value} :
    (Value.sequence items).WellFormed ↔ ∀ v ∈ items, v.WellFormed := by
  rw [WellFormed]
  induction items with
  | nil => simp [WellFormedItems]
  | cons v rest ih => simp [WellFormedItems, ih]

theorem wellFormedEntries_iff {entries : Fields Value} :
    WellFormedEntries entries ↔ ∀ entry ∈ entries, entry.2.WellFormed := by
  induction entries with
  | nil => simp [WellFormedEntries]
  | cons entry rest ih => simp [WellFormedEntries, ih]

theorem wellFormed_mapping_iff {entries : Fields Value} :
    (Value.mapping entries).WellFormed ↔
      Fields.Distinct entries ∧ ∀ entry ∈ entries, entry.2.WellFormed := by
  rw [WellFormed, wellFormedEntries_iff]

mutual

/-- Whether a property holds of a value and of all values in it.  Elements are not
entered. -/
def Everywhere (P : Value → Prop) : Value → Prop
  | .sequence items => P (.sequence items) ∧ EveryItem P items
  | .mapping entries => P (.mapping entries) ∧ EveryEntry P entries
  | v => P v

/-- Whether a property holds everywhere in all items. -/
def EveryItem (P : Value → Prop) : List Value → Prop
  | [] => True
  | item :: rest => item.Everywhere P ∧ EveryItem P rest

/-- Whether a property holds everywhere in all entries. -/
def EveryEntry (P : Value → Prop) : Fields Value → Prop
  | [] => True
  | (_, v) :: rest => v.Everywhere P ∧ EveryEntry P rest

end

variable {P : Value → Prop}

theorem everyItem_iff {items : List Value} :
    EveryItem P items ↔ ∀ v ∈ items, v.Everywhere P := by
  induction items with
  | nil => simp [EveryItem]
  | cons v rest ih => simp [EveryItem, ih]

theorem everyEntry_iff {entries : Fields Value} :
    EveryEntry P entries ↔ ∀ entry ∈ entries, entry.2.Everywhere P := by
  induction entries with
  | nil => simp [EveryEntry]
  | cons entry rest ih => simp [EveryEntry, ih]

theorem everywhere_sequence_iff {items : List Value} :
    (Value.sequence items).Everywhere P ↔
      P (.sequence items) ∧ ∀ v ∈ items, v.Everywhere P := by
  rw [Everywhere, everyItem_iff]

theorem everywhere_mapping_iff {entries : Fields Value} :
    (Value.mapping entries).Everywhere P ↔
      P (.mapping entries) ∧ ∀ entry ∈ entries, entry.2.Everywhere P := by
  rw [Everywhere, everyEntry_iff]

theorem Everywhere.self {v : Value} (h : v.Everywhere P) : P v := by
  cases v with
  | sequence items => exact (everywhere_sequence_iff.1 h).1
  | mapping entries => exact (everywhere_mapping_iff.1 h).1
  | _ => exact h

theorem Everywhere.item {items : List Value} (h : (Value.sequence items).Everywhere P) {v : Value}
    (hv : v ∈ items) : v.Everywhere P :=
  (everywhere_sequence_iff.1 h).2 v hv

theorem Everywhere.entry {entries : Fields Value} (h : (Value.mapping entries).Everywhere P)
    {entry : String × Value} (hentry : entry ∈ entries) : entry.2.Everywhere P :=
  (everywhere_mapping_iff.1 h).2 entry hentry

/-- Whether a value is no element. -/
def IsNoElement (v : Value) : Prop :=
  ∀ e, v ≠ .element e

/-- Whether a value is no text that holds a document. -/
def HoldsNoDocument (v : Value) : Prop :=
  ∀ s document, v = .string s → readDocument s ≠ .ok document

/-- Whether no text in a value is taken for a document. -/
def Settled (settings : Settings) (v : Value) : Prop :=
  settings.parseEmbeddedDocuments = true → v.Everywhere HoldsNoDocument

variable {settings : Settings}

theorem Settled.document?_eq_none {s : String} (h : (Value.string s).Settled settings) :
    Pattern.document? settings s = none := by
  rw [Pattern.document?]
  split
  · rename_i hlooks
    have hread := (h (Bool.and_eq_true_iff.1 hlooks).1).self s
    cases hdocument : readDocument s with
    | error e => rfl
    | ok document => exact absurd hdocument (hread document rfl)
  · rfl

theorem Settled.unfolded {v : Value} (h : v.Settled settings) : v.unfolded settings = v := by
  cases v with
  | string s => simp [Value.unfolded, h.document?_eq_none]
  | _ => rfl

theorem Settled.item {items : List Value} (h : (Value.sequence items).Settled settings) {v : Value}
    (hv : v ∈ items) : v.Settled settings :=
  fun hparse => (h hparse).item hv

theorem Settled.entry {entries : Fields Value} (h : (Value.mapping entries).Settled settings)
    {entry : String × Value} (hentry : entry ∈ entries) : entry.2.Settled settings :=
  fun hparse => (h hparse).entry hentry

end Value

end DocMatch
