import DocMatch.Proofs.Embedding
import DocMatch.Proofs.Fields
import DocMatch.Proofs.Nodes
import Mathlib.Data.List.Perm.Basic
/-!
Documents that differ in order only.  The keys of mappings and the attributes of elements
may be shuffled at every level, and with them, if so wanted, the items of sequences and the
child elements of elements.  Lookups do not see the first kind of shuffle, and the choice
of distinct places does not see the second.
-/

namespace DocMatch

/-- What may change its order. -/
inductive Shuffle where
  /-- Keys and attributes. -/
  | keys
  /-- Keys and attributes, items and child elements. -/
  | parts

/-- Whether a list of items or child elements turns into another one. -/
def Shuffle.Rearranges {α : Type} : Shuffle → List α → List α → Prop
  | .keys, items, others => items = others
  | .parts, items, others => items.Perm others

/-- Whether two elements differ in order only.  The parts are first changed one by one and
then put in their new order. -/
inductive Element.Reordered (shuffle : Shuffle) : Element → Element → Prop
  | intro {e other : Element} {middle : List Element} (name_eq : e.name = other.name)
      (attributes : e.attributes.Perm other.attributes) (text_eq : e.text? = other.text?)
      (parts : List.Forall₂ (Reordered shuffle) e.childElements middle)
      (order : shuffle.Rearranges middle other.childElements) : Reordered shuffle e other

mutual

/-- Whether two values differ in order only. -/
inductive Value.Reordered (shuffle : Shuffle) : Value → Value → Prop
  | leaf {v : Value} (hv : v.isContainer = false) : Value.Reordered shuffle v v
  | sequence {items middle others : List Value}
      (parts : List.Forall₂ (Value.Reordered shuffle) items middle)
      (order : shuffle.Rearranges middle others) :
      Value.Reordered shuffle (.sequence items) (.sequence others)
  | mapping {entries middle others : Fields Value}
      (parts : List.Forall₂ (Value.EntryReordered shuffle) entries middle)
      (order : middle.Perm others) :
      Value.Reordered shuffle (.mapping entries) (.mapping others)
  | element {e other : Element} (h : e.Reordered shuffle other) :
      Value.Reordered shuffle (.element e) (.element other)

/-- Whether two entries have the same key and values that differ in order only. -/
inductive Value.EntryReordered (shuffle : Shuffle) : String × Value → String × Value → Prop
  | intro {key : String} {v w : Value} (h : Value.Reordered shuffle v w) :
      Value.EntryReordered shuffle (key, v) (key, w)

end

section Lists

/-- Relations between two lists can be turned around where they can between the items. -/
theorem forall₂_symm_of_mem {α : Type} {rel : α → α → Prop} {parts others : List α}
    (hparts : List.Forall₂ rel parts others) (h : ∀ a ∈ parts, ∀ b, rel a b → rel b a) :
    List.Forall₂ rel others parts := by
  induction hparts with
  | nil => exact .nil
  | cons hrel _ ih =>
      rw [List.forall_mem_cons] at h
      exact .cons (h.1 _ hrel) (ih h.2)

theorem forall_iff_of_forall₂ {α : Type} {P : α → Prop} {items others : List α}
    (h : List.Forall₂ (fun a b => P a ↔ P b) items others) :
    (∀ a ∈ items, P a) ↔ ∀ b ∈ others, P b := by
  induction h with
  | nil => simp
  | cons hiff _ ih => rw [List.forall_mem_cons, List.forall_mem_cons, hiff, ih]

/-- Results that belong to related items are related. -/
theorem exists_forall₂_of_forall₂ {α β : Type} {rel : α → α → Prop} {rel' : β → β → Prop}
    {result : α → β → Prop} {items others : List α} {results : List β}
    (h : List.Forall₂ rel items others) (hresults : List.Forall₂ result items results)
    (hstep : ∀ a b r, rel a b → result a r → ∃ s, result b s ∧ rel' r s) :
    ∃ related, List.Forall₂ result others related ∧ List.Forall₂ rel' results related := by
  induction h generalizing results with
  | nil =>
      cases hresults
      exact ⟨[], .nil, .nil⟩
  | cons hrel _ ih =>
      cases hresults with
      | cons hresult hrest =>
          obtain ⟨s, hs, hrs⟩ := hstep _ _ _ hrel hresult
          obtain ⟨related, hothers, hrelated⟩ := ih hrest
          exact ⟨s :: related, .cons hs hothers, .cons hrs hrelated⟩

theorem exists_iff_of_forall₂ {α : Type} {P : α → Prop} {items others : List α}
    (h : List.Forall₂ (fun a b => P a ↔ P b) items others) :
    (∃ a ∈ items, P a) ↔ ∃ b ∈ others, P b := by
  induction h with
  | nil => simp
  | cons hiff _ ih => rw [List.exists_mem_cons_iff, List.exists_mem_cons_iff, hiff, ih]

/-- Items that the same values fit are fitted one by one by the same lists. -/
theorem forall₂_iff_of_forall₂ {ε α : Type} {fits : ε → α → Prop} {expected others : List ε}
    (h : List.Forall₂ (fun e d => ∀ a, (fits e a ↔ fits d a)) expected others)
    (actual : List α) : List.Forall₂ fits expected actual ↔ List.Forall₂ fits others actual := by
  induction h generalizing actual with
  | nil => exact Iff.rfl
  | cons hiff _ ih =>
      cases actual with
      | nil => simp
      | cons a actual => rw [List.forall₂_cons, List.forall₂_cons, hiff, ih]

end Lists

namespace Shuffle

variable {α β : Type} {shuffle : Shuffle} {items others : List α}

theorem Rearranges.refl (items : List α) : shuffle.Rearranges items items := by
  cases shuffle with
  | keys => exact Eq.refl items
  | parts => exact List.Perm.refl items

theorem Rearranges.perm (h : shuffle.Rearranges items others) : items.Perm others := by
  cases shuffle with
  | keys => exact .of_eq h
  | parts => exact h

theorem Rearranges.symm (h : shuffle.Rearranges items others) :
    shuffle.Rearranges others items := by
  cases shuffle with
  | keys => exact Eq.symm h
  | parts => exact List.Perm.symm h

/-- What is related to the items one by one can be rearranged like them. -/
theorem Rearranges.exists_forall₂ {rel : α → β → Prop} {results : List β}
    (h : shuffle.Rearranges items others) (hitems : List.Forall₂ rel items results) :
    ∃ rearranged, List.Forall₂ rel others rearranged ∧ shuffle.Rearranges results rearranged := by
  cases shuffle with
  | keys =>
      obtain rfl : items = others := h
      exact ⟨results, hitems, .refl results⟩
  | parts =>
      obtain ⟨rearranged, hothers, hperm⟩ :=
        List.perm_comp_forall₂ (List.Perm.symm h) hitems
      exact ⟨rearranged, hothers, hperm.symm⟩

end Shuffle

namespace Fields

variable {α : Type} {fields others : Fields α}

/-- With distinct keys the order of entries does not matter to lookups. -/
theorem get?_of_perm (hdistinct : fields.Distinct) (h : fields.Perm others) (key : String) :
    get? key fields = get? key others := by
  induction h with
  | nil => rfl
  | cons entry _ ih =>
      obtain ⟨-, hrest⟩ := List.nodup_cons.1 hdistinct
      rw [get?, get?, ih hrest]
  | swap first second rest =>
      obtain ⟨hnew, -⟩ := List.nodup_cons.1 hdistinct
      have hne : second.1 ≠ first.1 := fun h => hnew (h ▸ List.mem_cons_self)
      rw [get?, get?, get?, get?]
      split
      · rename_i hsecond
        rw [if_neg fun hfirst => hne (hsecond.trans hfirst.symm)]
      · rfl
  | trans h _ ih ih' =>
      exact (ih hdistinct).trans (ih' ((h.map Prod.fst).nodup_iff.1 hdistinct))

theorem keysWithin_of_actual {ε : Type} {expected : Fields ε}
    (h : fields.keys.Perm others.keys) :
    KeysWithin fields expected ↔ KeysWithin others expected := by
  simp only [KeysWithin, h.mem_iff]

/-- Whether there are unexpected entries depends on the keys only. -/
theorem isEmpty_unexpected_of_perm {ε : Type} {expected : Fields ε}
    (h : fields.keys.Perm others.keys) :
    (fields.filter fun entry => !contains entry.1 expected).isEmpty =
      (others.filter fun entry => !contains entry.1 expected).isEmpty := by
  rw [Bool.eq_iff_iff, List.isEmpty_iff, List.isEmpty_iff, filter_not_contains_eq_nil,
    filter_not_contains_eq_nil, keysWithin_of_actual h]

theorem keysWithin_of_expected {ε : Type} {actual : Fields ε}
    (h : fields.keys.Perm others.keys) :
    KeysWithin actual fields ↔ KeysWithin actual others := by
  simp only [KeysWithin, h.mem_iff]

section Entries

variable {rel : α → α → Prop} {middle : Fields α}

theorem keys_of_forall₂ (h : List.Forall₂ (fun a b => a.1 = b.1 ∧ rel a.2 b.2) fields middle) :
    fields.keys = middle.keys := by
  induction h with
  | nil => rfl
  | cons hentry _ ih => exact congrArg₂ List.cons hentry.1 ih

theorem get?_of_forall₂ (h : List.Forall₂ (fun a b => a.1 = b.1 ∧ rel a.2 b.2) fields middle)
    (key : String) : Option.Rel rel (get? key fields) (get? key middle) := by
  induction h with
  | nil => exact .none
  | cons hentry _ ih =>
      rw [get?, get?, hentry.1]
      split
      · exact .some hentry.2
      · exact ih

/-- Under each key of fields and of shuffled ones there are related values, or none. -/
theorem get?_of_shuffled (hdistinct : fields.Distinct)
    (parts : List.Forall₂ (fun a b => a.1 = b.1 ∧ rel a.2 b.2) fields middle)
    (order : middle.Perm others) (key : String) :
    Option.Rel rel (get? key fields) (get? key others) := by
  have hmiddle : middle.Distinct := by rwa [Distinct, ← keys_of_forall₂ parts]
  rw [← get?_of_perm hmiddle order]
  exact get?_of_forall₂ parts key

/-- Shuffled fields have the same keys. -/
theorem keys_perm_of_shuffled
    (parts : List.Forall₂ (fun a b => a.1 = b.1 ∧ rel a.2 b.2) fields middle)
    (order : middle.Perm others) : fields.keys.Perm others.keys :=
  keys_of_forall₂ parts ▸ order.map Prod.fst

end Entries

end Fields

namespace Assignment

variable {ε α : Type} {fits fits' : ε → α → Prop} {expected : List ε} {actual : List α}

/-- Items have distinct places among the same items in another order. -/
theorem Embeds.of_perm {others : List α} (h : actual.Perm others) : Embeds Eq actual others := by
  classical
  exact ⟨h.idxBij, h.idxBij_injective, fun i => (h.getElem_idxBij_eq_getElem i).symm⟩

/-- Distinct places are not lost when actual items change in a way that keeps what they
fit, and then their order. -/
theorem embeds_iff_of_actual (fits : ε → α → Prop) (expected : List ε) {rel : α → α → Prop}
    {middle others : List α} (parts : List.Forall₂ rel actual middle) (order : middle.Perm others)
    (hiff : ∀ e ∈ expected, ∀ a b, rel a b → (fits e a ↔ fits e b)) :
    Embeds fits expected actual ↔ Embeds fits expected others := by
  constructor
  · intro h
    have hmiddle : Embeds fits expected middle :=
      h.trans (.of_forall₂ parts) fun e he a _ b _ hfits hrel => (hiff e he a b hrel).1 hfits
    exact hmiddle.trans (.of_perm order) fun e _ a _ b _ hfits heq => heq ▸ hfits
  · intro h
    have hmiddle : Embeds fits expected middle :=
      h.trans (.of_perm order.symm) fun e _ a _ b _ hfits heq => heq ▸ hfits
    exact hmiddle.trans (.of_forall₂ parts.flip) fun e he a _ b _ hfits hrel =>
      (hiff e he b a hrel).2 hfits

/-- Nor are they lost when this happens to expected items. -/
theorem embeds_iff_of_expected (fits : ε → α → Prop) {rel : ε → ε → Prop}
    {middle others : List ε} (parts : List.Forall₂ rel expected middle) (order : middle.Perm others)
    (hiff : ∀ e ∈ expected, ∀ d, rel e d → ∀ a, (fits e a ↔ fits d a)) (actual : List α) :
    Embeds fits expected actual ↔ Embeds fits others actual := by
  constructor
  · intro h
    have hmiddle : Embeds fits middle actual :=
      Embeds.trans (.of_forall₂ parts.flip) h fun d _ e he a _ hrel hfits =>
        (hiff e he d hrel a).1 hfits
    exact Embeds.trans (.of_perm order.symm) hmiddle fun d _ e _ a _ heq hfits => heq ▸ hfits
  · intro h
    have hmiddle : Embeds fits middle actual :=
      Embeds.trans (.of_perm order) h fun d _ e _ a _ heq hfits => heq ▸ hfits
    exact Embeds.trans (.of_forall₂ parts) hmiddle fun e he d _ a _ hrel hfits =>
      (hiff e he d hrel a).2 hfits

end Assignment

namespace Element

variable {shuffle : Shuffle} {e other : Element}

theorem Reordered.refl (e : Element) : e.Reordered shuffle e := by
  induction e using Element.induct with
  | step e ih => exact .intro rfl (.refl _) rfl (List.forall₂_same.2 ih) (.refl _)

theorem Reordered.symm (e : Element) :
    ∀ {other : Element}, e.Reordered shuffle other → other.Reordered shuffle e := by
  induction e using Element.induct with
  | step e ih =>
      rintro other ⟨name_eq, attributes, text_eq, parts, order⟩
      obtain ⟨rearranged, hparts, horder⟩ := order.exists_forall₂
        (forall₂_symm_of_mem parts fun child hchild _ h => ih child hchild h)
      exact .intro name_eq.symm attributes.symm text_eq.symm hparts horder.symm

theorem Reordered.isLeaf_eq (h : e.Reordered shuffle other) : e.isLeaf = other.isLeaf := by
  obtain ⟨-, -, -, parts, order⟩ := h
  rw [isLeaf, isLeaf, Bool.eq_iff_iff, List.isEmpty_iff_length_eq_zero,
    List.isEmpty_iff_length_eq_zero, parts.length_eq, order.perm.length_eq]

end Element

namespace Value

variable {shuffle : Shuffle} {v w : Value} {entries others : Fields Value}

theorem EntryReordered.key_eq {entry other : String × Value}
    (h : EntryReordered shuffle entry other) : entry.1 = other.1 := by
  cases h
  rfl

theorem Reordered.refl (v : Value) : v.Reordered shuffle v := by
  induction v using Value.induct with
  | leaf v hv => exact .leaf hv
  | sequence items ih => exact .sequence (List.forall₂_same.2 ih) (.refl _)
  | mapping entries ih =>
      exact .mapping (List.forall₂_same.2 fun entry hentry => .intro (ih entry hentry)) (.refl _)
  | element e => exact .element (.refl e)

theorem Reordered.symm (v : Value) :
    ∀ {w : Value}, v.Reordered shuffle w → w.Reordered shuffle v := by
  induction v using Value.induct with
  | leaf v hv =>
      intro w h
      cases h with
      | leaf hv => exact .leaf hv
      | sequence => cases hv
      | mapping => cases hv
      | element => cases hv
  | sequence items ih =>
      intro w h
      cases h with
      | leaf hv => cases hv
      | sequence parts order =>
          obtain ⟨rearranged, hparts, horder⟩ := order.exists_forall₂
            (forall₂_symm_of_mem parts fun item hitem _ h => ih item hitem h)
          exact .sequence hparts horder.symm
  | mapping entries ih =>
      intro w h
      cases h with
      | leaf hv => cases hv
      | mapping parts order =>
          have hsymm : ∀ entry ∈ entries, ∀ other, EntryReordered shuffle entry other →
              EntryReordered shuffle other entry := by
            rintro _ hentry _ ⟨h⟩
            exact .intro (ih _ hentry h)
          obtain ⟨rearranged, hparts, hperm⟩ :=
            List.perm_comp_forall₂ order.symm (forall₂_symm_of_mem parts hsymm)
          exact .mapping hparts hperm
  | element e =>
      intro w h
      cases h with
      | leaf hv => cases hv
      | element h => exact .element (Element.Reordered.symm e h)

theorem Reordered.kind_eq (h : v.Reordered shuffle w) : v.kind = w.kind := by
  cases h <;> rfl

theorem Reordered.isContainer_eq (h : v.Reordered shuffle w) : v.isContainer = w.isContainer := by
  rw [isContainer, isContainer, h.kind_eq]

/-- A value without parts stays as it is. -/
theorem Reordered.eq_of_leaf (h : v.Reordered shuffle w) (hv : v.isContainer = false) :
    v = w := by
  cases h with
  | leaf => rfl
  | sequence => cases hv
  | mapping => cases hv
  | element => cases hv

theorem EntryReordered.value {entry other : String × Value}
    (h : EntryReordered shuffle entry other) : entry.2.Reordered shuffle other.2 := by
  obtain ⟨hvalue⟩ := h
  exact hvalue

end Value

end DocMatch
