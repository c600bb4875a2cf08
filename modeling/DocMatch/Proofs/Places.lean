import DocMatch.Proofs.Nodes
/-!
Where paths lead.  A path into a mapping or a sequence goes on in the entry or item; a
path into an element names child elements by their names and, for each but the first of
a name, by their numbers among these.
-/

namespace DocMatch

/-- Whether a path starts with an index. -/
def Path.StartsWithIndex (p : Path) : Prop :=
  ∃ n rest, p = .index n :: rest

theorem Path.not_startsWithIndex_nil : ¬ Path.StartsWithIndex [] := by
  rintro ⟨n, rest, h⟩
  cases h

theorem Path.StartsWithIndex.of_append_keys {p : Path} {keys : List String}
    (h : Path.StartsWithIndex (p ++ keys.map .key)) : p.StartsWithIndex := by
  obtain ⟨n, rest, hindex⟩ := h
  cases p with
  | nil =>
      cases keys with
      | nil => cases hindex
      | cons key keys => cases hindex
  | cons segment p =>
      cases hindex
      exact ⟨n, p, rfl⟩

namespace Element

/-- Whether the name of an element is not read as an attribute or as the text. -/
def HasPlainName (e : Element) : Prop :=
  e.name ≠ textKey ∧ attributeKey? e.name = none

theorem attributeKey?_attributeKey (name : String) :
    attributeKey? (ElementPattern.attributeKey name) = some name := by
  simp [attributeKey?, ElementPattern.attributeKey]

theorem select?_text (e : Element) (rest : Path) :
    e.select? (.key textKey :: rest) = terminal (.ofString? e.text?) rest := by
  cases rest with
  | nil => simp [select?]
  | cons segment rest => cases segment <;> simp [select?]

theorem select?_of_attributeKey? {key name : String} (h : attributeKey? key = some name)
    (e : Element) (rest : Path) :
    e.select? (.key key :: rest) =
      (Fields.get? name e.attributes).bind fun value => terminal (.string value) rest := by
  have hkey : key ≠ textKey := by
    rintro rfl
    cases h
  cases rest with
  | nil => simp [select?, hkey, h]
  | cons segment rest => cases segment <;> simp [select?, hkey, h]

theorem select?_attribute (e : Element) (name : String) (rest : Path) :
    e.select? (.key (ElementPattern.attributeKey name) :: rest) =
      (Fields.get? name e.attributes).bind fun value => terminal (.string value) rest :=
  select?_of_attributeKey? (attributeKey?_attributeKey name) e rest

variable {e child : Element} {rest : Path}

/-- Whether a key is the name of child elements, and not that of an attribute or the text. -/
def NamesChildren (key : String) : Prop :=
  key ≠ textKey ∧ attributeKey? key = none

/-- A name alone leads to the first child element of that name. -/
theorem select?_name {name : String} (hname : NamesChildren name) (hrest : ¬ rest.StartsWithIndex) :
    e.select? (.key name :: rest) =
      (e.namedChild? name 0).bind fun child => child.select? rest := by
  rw [select?, if_neg hname.1, hname.2]
  exact fun n after h => hrest ⟨n, after, h⟩

/-- A name and a number lead to the child element of that number among those of the name. -/
theorem select?_number {name : String} (hname : NamesChildren name) (n : Nat) (rest : Path) :
    e.select? (.key name :: .index n :: rest) =
      (e.namedChild? name n).bind fun child => child.select? rest := by
  rw [select?, if_neg hname.1, hname.2]

/-- The first child element of a name is found under the name alone. -/
theorem select?_first (hplain : child.HasPlainName)
    (hchild : e.namedChild? child.name 0 = some child) (hrest : ¬ rest.StartsWithIndex) :
    e.select? (.key child.name :: rest) = child.select? rest := by
  rw [select?_name hplain hrest, hchild, Option.bind_some]

/-- Every child element is found under its name and its number. -/
theorem select?_numbered {n : Nat} (hplain : child.HasPlainName)
    (hchild : e.namedChild? child.name n = some child) :
    e.select? (.key child.name :: .index n :: rest) = child.select? rest := by
  rw [select?_number hplain, hchild, Option.bind_some]

theorem namedChild?_of_childElements {before after : List Element}
    (h : e.childElements = before ++ child :: after) :
    e.namedChild? child.name (before.countP fun c => c.name == child.name) = some child := by
  rw [namedChild?, h, List.filter_append, List.filter_cons_of_pos (by simp),
    List.countP_eq_length_filter, List.getElem?_append_right (Nat.le_refl _)]
  simp

end Element

namespace ElementPattern

/-- The paths of child elements lead to them. -/
theorem select?_childPaths {e : Element} {before items : List Element} {seen : List String}
    (hitems : e.childElements = before ++ items)
    (hseen : ∀ name, seen.count name = before.countP fun c => c.name == name)
    {n : Nat} {child : Element} {place rest : Path} (hchild : items[n]? = some child)
    (hplace : (childPaths seen items)[n]? = some place) (hplain : child.HasPlainName)
    (hrest : ¬ rest.StartsWithIndex) : e.select? (place ++ rest) = child.select? rest := by
  induction items generalizing before seen n with
  | nil => cases hchild
  | cons item items ih =>
      cases n with
      | zero =>
          cases hchild
          have hnamed := Element.namedChild?_of_childElements hitems
          rw [← hseen] at hnamed
          simp only [childPaths, List.getElem?_cons_zero, Option.some.injEq] at hplace
          subst hplace
          split
          · rename_i hzero
            rw [hzero] at hnamed
            exact Element.select?_first hplain hnamed hrest
          · exact Element.select?_numbered hplain hnamed
      | succ n =>
          have hafter : e.childElements = before ++ [item] ++ items := by
            rw [hitems, List.append_assoc, List.singleton_append]
          have hcount : ∀ name, (item.name :: seen).count name =
              (before ++ [item]).countP fun c => c.name == name := by
            intro name
            rw [List.count_cons, List.countP_append, hseen, List.countP_singleton]
          exact ih hafter hcount hchild hplace

end ElementPattern

namespace Value

/-- Whether no element of a value has a name that is read as an attribute or as the text. -/
def HasPlainNames (v : Value) : Prop :=
  v.Everywhere fun w => ∀ e, w = .element e → e.Everywhere Element.HasPlainName

theorem get?_element (e : Element) (path : Path) :
    (Value.element e).get? path = e.select? path := by
  cases path with
  | nil => rfl
  | cons segment rest => rfl

theorem get?_cons_of_leaf {v : Value} (hv : v.isContainer = false) (segment : Segment)
    (rest : Path) : v.get? (segment :: rest) = none := by
  cases v with
  | sequence items => cases hv
  | mapping entries => cases hv
  | element e => cases hv
  | _ => rfl

theorem get?_entry {entries : Fields Value} {key : String} {v : Value}
    (h : Fields.get? key entries = some v) (rest : Path) :
    (Value.mapping entries).get? (.key key :: rest) = v.get? rest := by
  rw [get?, h, Option.bind_some]

theorem get?_item {items : List Value} {i : Nat} {v : Value} (h : items[i]? = some v)
    (rest : Path) : (Value.sequence items).get? (.index i :: rest) = v.get? rest := by
  rw [get?, h, Option.bind_some]

end Value

end DocMatch
