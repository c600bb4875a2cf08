import DocMatch.Proofs.Compiled
import DocMatch.Proofs.Nodes
/-!
Escaped documents.  A document in which every text has a backslash in front compiles,
whatever its texts hold, to the pattern that takes every text literally.
-/

namespace DocMatch

/-- A text with a backslash in front. -/
def escapeText (s : String) : String :=
  "\\" ++ s

theorem unescaped?_escapeText (s : String) :
    Pattern.unescaped? (escapeText s) = some s := by
  simp [Pattern.unescaped?, escapeText]

namespace Element

/-- Children with a backslash in front of the first text. -/
def escapeFirstText : List (Content Element) → List (Content Element)
  | [] => []
  | .element e :: rest => .element e :: escapeFirstText rest
  | .text t :: rest => .text (escapeText t) :: rest

mutual

/-- The element with a backslash in front of every attribute value, and in front of the
first text of every element without child elements. -/
def escaped : Element → Element
  | ⟨name, attributes, children⟩ =>
      ⟨name, Fields.mapValues escapeText attributes,
        if Element.isLeaf ⟨name, attributes, children⟩ then escapeFirstText children
        else escapedChildren children⟩

/-- The children with escaped child elements. -/
def escapedChildren : List (Content Element) → List (Content Element)
  | [] => []
  | .element e :: rest => .element e.escaped :: escapedChildren rest
  | .text t :: rest => .text t :: escapedChildren rest

end

mutual

/-- How many levels of child elements are below the element. -/
def depth : Element → Nat
  | ⟨_, _, children⟩ => depthBelow children

/-- How many levels of elements the children have. -/
def depthBelow : List (Content Element) → Nat
  | [] => 0
  | .element e :: rest => max (e.depth + 1) (depthBelow rest)
  | .text _ :: rest => depthBelow rest

end

mutual

/-- The pattern that takes every attribute and every text literally. -/
def literally : Element → ElementPattern
  | ⟨name, attributes, children⟩ =>
      if Element.isLeaf ⟨name, attributes, children⟩ then
        .leaf name (Fields.mapValues (fun s => .literal (.string s)) attributes)
          (.literal (.ofString? (Element.text? ⟨name, attributes, children⟩)))
      else
        .branch name (Fields.mapValues (fun s => .literal (.string s)) attributes)
          (literallyChildren children)

/-- The patterns of the child elements. -/
def literallyChildren : List (Content Element) → List ElementPattern
  | [] => []
  | .element e :: rest => e.literally :: literallyChildren rest
  | .text _ :: rest => literallyChildren rest

end

variable {e : Element}

@[simp] theorem escaped_name : e.escaped.name = e.name := by
  cases e
  rfl

@[simp] theorem escaped_attributes :
    e.escaped.attributes = Fields.mapValues escapeText e.attributes := by
  cases e
  rfl

theorem escaped_children :
    e.escaped.children =
      if e.isLeaf then escapeFirstText e.children else escapedChildren e.children := by
  cases e
  rfl

@[simp] theorem filterMap_element?_element (child : Element) (rest : List (Content Element)) :
    (Content.element child :: rest).filterMap Content.element? =
      child :: rest.filterMap Content.element? := rfl

theorem depth_le_iff {n : Nat} : e.depth ≤ n ↔ ∀ child ∈ e.childElements, child.depth < n := by
  obtain ⟨name, attributes, children⟩ := e
  simp only [depth, childElements]
  induction children with
  | nil => simp [depthBelow]
  | cons content rest ih =>
      cases content with
      | element child =>
          simp only [depthBelow, filterMap_element?_element, List.forall_mem_cons, Nat.max_le, ih,
            Nat.succ_le_iff]
      | text t => exact ih

theorem literally_of_isLeaf (h : e.isLeaf = true) :
    e.literally =
      .leaf e.name (Fields.mapValues (fun s => .literal (.string s)) e.attributes)
        (.literal (.ofString? e.text?)) := by
  obtain ⟨name, attributes, children⟩ := e
  rw [literally, if_pos h]

theorem literallyChildren_eq_map (children : List (Content Element)) :
    literallyChildren children = (children.filterMap Content.element?).map literally := by
  induction children with
  | nil => rfl
  | cons content rest ih =>
      cases content with
      | element e => simp [literallyChildren, ih]
      | text t => exact ih

theorem literally_of_not_isLeaf (h : e.isLeaf = false) :
    e.literally =
      .branch e.name (Fields.mapValues (fun s => .literal (.string s)) e.attributes)
        (e.childElements.map literally) := by
  obtain ⟨name, attributes, children⟩ := e
  rw [literally, if_neg (by simp [h]), literallyChildren_eq_map, childElements]

theorem filterMap_element?_escapeFirstText (children : List (Content Element)) :
    (escapeFirstText children).filterMap Content.element? =
      children.filterMap Content.element? := by
  induction children with
  | nil => rfl
  | cons content rest ih =>
      cases content with
      | element e => simp [escapeFirstText, ih]
      | text t => rfl

theorem filterMap_element?_escapedChildren (children : List (Content Element)) :
    (escapedChildren children).filterMap Content.element? =
      (children.filterMap Content.element?).map escaped := by
  induction children with
  | nil => rfl
  | cons content rest ih =>
      cases content with
      | element e => simp [escapedChildren, ih]
      | text t => exact ih

/-- Only child elements that are there are escaped, and none is added or dropped. -/
theorem childElements_escaped : e.escaped.childElements = e.childElements.map escaped := by
  rw [childElements, escaped_children]
  cases h : e.isLeaf with
  | true =>
      have hnil : e.childElements = [] := List.isEmpty_iff.1 h
      rw [if_pos rfl, filterMap_element?_escapeFirstText]
      rw [childElements] at hnil ⊢
      rw [hnil, List.map_nil]
  | false => simp [filterMap_element?_escapedChildren, childElements]

theorem isLeaf_escaped : e.escaped.isLeaf = e.isLeaf := by
  rw [isLeaf, isLeaf, childElements_escaped, List.isEmpty_map]

theorem filterMap_text?_escapeFirstText (children : List (Content Element)) :
    (escapeFirstText children).filterMap Content.text? =
      match children.filterMap Content.text? with
      | [] => []
      | t :: rest => escapeText t :: rest := by
  induction children with
  | nil => rfl
  | cons content rest ih =>
      cases content with
      | element child => exact ih
      | text t => rfl

/-- The backslash stands in front of the whole text of an element. -/
theorem text?_escaped (h : e.isLeaf = true) : e.escaped.text? = e.text?.map escapeText := by
  rw [text?, text?, escaped_children, if_pos h, filterMap_text?_escapeFirstText]
  cases e.children.filterMap Content.text? with
  | nil => rfl
  | cons t rest => simp [escapeText, String.join_cons, String.append_assoc]

end Element

namespace Value

mutual

/-- The value with a backslash in front of every text. -/
def escaped : Value → Value
  | .string s => .string (escapeText s)
  | .sequence items => .sequence (escapedItems items)
  | .mapping entries => .mapping (escapedEntries entries)
  | .element e => .element e.escaped
  | v => v

/-- The escaped items. -/
def escapedItems : List Value → List Value
  | [] => []
  | v :: rest => v.escaped :: escapedItems rest

/-- The entries with escaped values. -/
def escapedEntries : Fields Value → Fields Value
  | [] => []
  | (key, v) :: rest => (key, v.escaped) :: escapedEntries rest

end

mutual

/-- How many levels of parts are below the value. -/
def depth : Value → Nat
  | .sequence items => depthOfItems items
  | .mapping entries => depthOfEntries entries
  | .element e => e.depth
  | _ => 0

/-- How many levels the items have. -/
def depthOfItems : List Value → Nat
  | [] => 0
  | v :: rest => max (v.depth + 1) (depthOfItems rest)

/-- How many levels the values of the entries have. -/
def depthOfEntries : Fields Value → Nat
  | [] => 0
  | (_, v) :: rest => max (v.depth + 1) (depthOfEntries rest)

end

mutual

/-- The pattern that takes every text literally. -/
def literally : Value → Pattern
  | .sequence items => .sequence (literallyItems items)
  | .mapping entries => .mapping (literallyEntries entries)
  | .element e => .element e.literally
  | v => .leaf (.literal v)

/-- The patterns of the items. -/
def literallyItems : List Value → List Pattern
  | [] => []
  | v :: rest => v.literally :: literallyItems rest

/-- The patterns of the entries. -/
def literallyEntries : Fields Value → Fields Pattern
  | [] => []
  | (key, v) :: rest => (key, v.literally) :: literallyEntries rest

end

theorem escapedItems_eq_map (items : List Value) : escapedItems items = items.map escaped := by
  induction items with
  | nil => rfl
  | cons v rest ih => rw [escapedItems, ih, List.map_cons]

theorem escapedEntries_eq_mapValues (entries : Fields Value) :
    escapedEntries entries = Fields.mapValues escaped entries := by
  induction entries with
  | nil => rfl
  | cons entry rest ih => rw [escapedEntries, ih, Fields.mapValues, Fields.mapValues, List.map_cons]

theorem literally_of_leaf {v : Value} (hv : v.isContainer = false) :
    v.literally = .leaf (.literal v) := by
  cases v with
  | sequence items => cases hv
  | mapping entries => cases hv
  | element e => cases hv
  | _ => rfl

theorem literallyItems_eq_map (items : List Value) :
    literallyItems items = items.map literally := by
  induction items with
  | nil => rfl
  | cons v rest ih => rw [literallyItems, ih, List.map_cons]

theorem literallyEntries_eq_mapValues (entries : Fields Value) :
    literallyEntries entries = Fields.mapValues literally entries := by
  induction entries with
  | nil => rfl
  | cons entry rest ih =>
      rw [literallyEntries, ih, Fields.mapValues, Fields.mapValues, List.map_cons]

theorem depthOfItems_le_iff {items : List Value} {n : Nat} :
    depthOfItems items ≤ n ↔ ∀ v ∈ items, v.depth < n := by
  induction items with
  | nil => simp [depthOfItems]
  | cons v rest ih =>
      rw [depthOfItems, Nat.max_le, ih, List.forall_mem_cons, Nat.succ_le_iff]

theorem depthOfEntries_le_iff {entries : Fields Value} {n : Nat} :
    depthOfEntries entries ≤ n ↔ ∀ entry ∈ entries, entry.2.depth < n := by
  induction entries with
  | nil => simp [depthOfEntries]
  | cons entry rest ih =>
      rw [depthOfEntries, Nat.max_le, ih, List.forall_mem_cons, Nat.succ_le_iff]

end Value

namespace Pattern

section Maps

variable {α β γ : Type} {f : β → Except MatchError γ} {before : α → β} {after : α → γ}

theorem compileList_map {values : List α} (h : ∀ v ∈ values, f (before v) = .ok (after v)) :
    compileList f (values.map before) = .ok (values.map after) := by
  rw [compileList_eq_ok_iff, List.forall₂_map_left_iff, List.forall₂_map_right_iff,
    List.forall₂_same]
  exact h

theorem compileFields_mapValues {fields : Fields α}
    (h : ∀ entry ∈ fields, f (before entry.2) = .ok (after entry.2)) :
    compileFields f (Fields.mapValues before fields) = .ok (Fields.mapValues after fields) := by
  rw [compileFields_eq_ok_iff, Fields.mapValues, Fields.mapValues, List.forall₂_map_left_iff,
    List.forall₂_map_right_iff, List.forall₂_same]
  exact fun entry hentry => ⟨rfl, h entry hentry⟩

end Maps

variable {registry : Registry} {settings : Settings} {limit : Nat}

theorem readLeaf_escapeText (s : String) :
    readLeaf registry (escapeText s) = .ok (.literal (.string s)) := by
  rw [readLeaf, unescaped?_escapeText]

theorem readText_escapeText (s : String) :
    readText registry settings (escapeText s) = .ok (.leaf (.literal (.string s))) := by
  rw [readText, unescaped?_escapeText]

theorem exists_room_below {depth room : Nat} (h : depth < room) :
    ∃ below, room = below + 1 ∧ depth ≤ below :=
  ⟨room - 1, by omega, by omega⟩

/-- An escaped element compiles to its literal pattern. -/
theorem compileElement_escaped (e : Element) :
    ∀ {room : Nat}, e.depth ≤ room →
      compileElement registry limit (room + 1) e.escaped = .ok e.literally := by
  induction e using Element.induct with
  | step e ih =>
      intro room hdepth
      have hattributes : compileFields (readLeaf registry) e.escaped.attributes =
          .ok (Fields.mapValues (fun s => .literal (.string s)) e.attributes) := by
        rw [Element.escaped_attributes]
        exact compileFields_mapValues fun entry _ => readLeaf_escapeText entry.2
      cases hleaf : e.isLeaf with
      | true =>
          rw [compileElement_leaf_iff (Element.isLeaf_escaped.trans hleaf),
            Element.literally_of_isLeaf hleaf, Element.text?_escaped hleaf, Element.escaped_name]
          refine ⟨_, _, hattributes, ?_, rfl⟩
          cases e.text? with
          | none => rfl
          | some s => exact readLeaf_escapeText s
      | false =>
          rw [compileElement_branch_iff (Element.isLeaf_escaped.trans hleaf),
            Element.literally_of_not_isLeaf hleaf, Element.childElements_escaped,
            Element.escaped_name]
          refine ⟨_, _, hattributes, compileList_map fun child hchild => ?_, rfl⟩
          obtain ⟨below, rfl, hle⟩ := exists_room_below (Element.depth_le_iff.1 hdepth child hchild)
          exact ih child hchild hle

/-- An escaped value compiles to its literal pattern. -/
theorem compileWithin_escaped (v : Value) :
    ∀ {room : Nat}, v.depth ≤ room →
      compileWithin registry settings (room + 1) v.escaped = .ok v.literally := by
  induction v using Value.induct with
  | leaf v hv =>
      intro room _
      cases v with
      | string s =>
          rw [Value.escaped, compileWithin, readText_escapeText]
          rfl
      | sequence items => cases hv
      | mapping entries => cases hv
      | element e => cases hv
      | _ => rfl
  | sequence items ih =>
      intro room hdepth
      rw [Value.escaped, compileWithin_of_not_string rfl, compileParts, Value.escapedItems_eq_map,
        Value.literally, Value.literallyItems_eq_map, compileList_map]
      · rfl
      · intro v hv
        obtain ⟨below, rfl, hle⟩ :=
          exists_room_below (Value.depthOfItems_le_iff.1 hdepth v hv)
        exact ih v hv hle
  | mapping entries ih =>
      intro room hdepth
      rw [Value.escaped, compileWithin_of_not_string rfl, compileParts,
        Value.escapedEntries_eq_mapValues, Value.literally, Value.literallyEntries_eq_mapValues,
        compileFields_mapValues]
      · rfl
      · intro entry hentry
        obtain ⟨below, rfl, hle⟩ :=
          exists_room_below (Value.depthOfEntries_le_iff.1 hdepth entry hentry)
        exact ih entry hentry hle
  | element e =>
      intro room hdepth
      rw [Value.escaped, compileWithin_of_not_string rfl, compileParts,
        compileElement_escaped e hdepth]
      rfl

/-- Every escaped value that is not nested too deeply compiles. -/
theorem compile_escaped {v : Value} (hdepth : v.depth ≤ settings.maxDepth) :
    compile registry settings v.escaped = .ok v.literally :=
  compileWithin_escaped v hdepth

end Pattern

end DocMatch
