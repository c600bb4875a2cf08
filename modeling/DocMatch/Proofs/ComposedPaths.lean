import DocMatch.Proofs.Places
import DocMatch.Proofs.WriteStep
/-!
Paths put together.  What is found at one path followed by another one is what the second finds
from where the first leads, unless the two part a name of child elements from a number among
them.  And the lookup through mappings and sequences only finds what the other one finds, as
long as the path does not go on in an element.
-/

namespace DocMatch

namespace Path

/-- Whether a key at the end of one path meets an index at the start of the next. -/
def PartsNumber (p q : Path) : Prop :=
  ∃ place key n rest, p = place ++ [.key key] ∧ q = .index n :: rest

variable {p q : Path}

theorem PartsNumber.cons (h : p.PartsNumber q) (segment : Segment) :
    PartsNumber (segment :: p) q := by
  obtain ⟨place, key, n, rest, rfl, rfl⟩ := h
  exact ⟨segment :: place, key, n, rest, rfl, rfl⟩

theorem not_partsNumber_key (p : Path) (key : String) (rest : Path) :
    ¬ p.PartsNumber (.key key :: rest) := by
  rintro ⟨_, _, _, _, -, h⟩
  cases h

end Path

namespace Element

/-- Nothing follows what ends a path. -/
theorem terminal_append {v : Value} (hv : v.isContainer = false) (rest q : Path) :
    terminal v (rest ++ q) = (terminal v rest).bind fun w => w.get? q := by
  cases rest with
  | nil =>
      cases q with
      | nil => rfl
      | cons segment q => simp [terminal, Value.get?_cons_of_leaf hv]
  | cons segment rest => simp [terminal]

theorem isContainer_ofString? (text : Option String) :
    (Value.ofString? text).isContainer = false := by
  cases text <;> rfl

theorem select?_append {e : Element} {p q : Path} (h : ¬ p.PartsNumber q) :
    e.select? (p ++ q) = (e.select? p).bind fun v => v.get? q := by
  induction e, p using Element.select?.induct with
  | case1 e => exact (Value.get?_element e q).symm
  | case2 e rest =>
      rw [List.cons_append, select?_text, select?_text]
      exact terminal_append (isContainer_ofString? _) rest q
  | case3 e key rest _ name hname =>
      rw [List.cons_append, select?_of_attributeKey? hname, select?_of_attributeKey? hname,
        Option.bind_assoc]
      congr 1
      funext value
      exact terminal_append rfl rest q
  | case4 e key htext hattribute n rest ih =>
      have hrest : ¬ Path.PartsNumber rest q := fun hparts => h ((hparts.cons _).cons _)
      rw [List.cons_append, List.cons_append, select?_number ⟨htext, hattribute⟩,
        select?_number ⟨htext, hattribute⟩, Option.bind_assoc]
      congr 1
      funext child
      exact ih child hrest
  | case5 e key htext hattribute rest hindex ih =>
      have hrest : ¬ Path.PartsNumber rest q := fun hparts => h (hparts.cons _)
      have hno : ¬ Path.StartsWithIndex rest := fun ⟨n, after, hstart⟩ => hindex n after hstart
      -- no index comes from `q` either, where the key is the last segment
      have hno' : ¬ Path.StartsWithIndex (rest ++ q) := by
        rintro ⟨n, after, hstart⟩
        cases rest with
        | nil => exact h ⟨[], key, n, after, rfl, hstart⟩
        | cons segment rest =>
            cases hstart
            exact hindex n rest rfl
      rw [List.cons_append, select?_name ⟨htext, hattribute⟩ hno',
        select?_name ⟨htext, hattribute⟩ hno, Option.bind_assoc]
      congr 1
      funext child
      exact ih child hrest
  | case6 e n rest ih =>
      have hrest : ¬ Path.PartsNumber rest q := fun hparts => h (hparts.cons _)
      rw [List.cons_append, select?, select?, Option.bind_assoc]
      congr 1
      funext child
      exact ih child hrest
  | case7 e rest => simp [select?]

end Element

namespace Value

variable {v w : Value} {p q place : Path}

theorem get?_append (h : ¬ p.PartsNumber q) :
    v.get? (p ++ q) = (v.get? p).bind fun w => w.get? q := by
  induction p generalizing v with
  | nil => rfl
  | cons segment p ih =>
      by_cases hv : ∃ e, v = .element e
      · obtain ⟨e, rfl⟩ := hv
        rw [get?_element, get?_element, Element.select?_append h]
      · have hv' : ∀ e, v ≠ .element e := not_exists.1 hv
        have hp : ¬ Path.PartsNumber p q := fun hparts => h (hparts.cons _)
        rw [List.cons_append, get?_cons hv', get?_cons hv', Option.bind_assoc]
        congr 1
        funext child
        exact ih hp

/-- Whether a path goes on below an element. -/
def EntersElement (v : Value) (p : Path) : Prop :=
  ∃ place segment rest e, p = place ++ segment :: rest ∧ v.get? place = some (.element e)

theorem not_entersElement_nil (v : Value) : ¬ v.EntersElement [] := by
  rintro ⟨place, segment, rest, e, h, -⟩
  simp at h

theorem entersElement_element (e : Element) (segment : Segment) (rest : Path) :
    (Value.element e).EntersElement (segment :: rest) :=
  ⟨[], segment, rest, e, rfl, rfl⟩

theorem entersElement_cons_iff (hv : ∀ e, v ≠ .element e) {segment : Segment} :
    v.EntersElement (segment :: p) ↔
      ∃ child, v.child? segment = some child ∧ child.EntersElement p := by
  constructor
  · rintro ⟨place, other, rest, e, hp, he⟩
    cases place with
    | nil => exact absurd (Option.some.inj he) (hv e)
    | cons first place =>
        obtain ⟨rfl, rfl⟩ := List.cons.inj hp
        rw [get?_cons hv, Option.bind_eq_some_iff] at he
        obtain ⟨child, hchild, he⟩ := he
        exact ⟨child, hchild, place, other, rest, e, rfl, he⟩
  · rintro ⟨child, hchild, place, other, rest, e, rfl, he⟩
    refine ⟨segment :: place, other, rest, e, rfl, ?_⟩
    rw [get?_cons hv, hchild]
    exact he

/-- What the lookup through mappings and sequences finds is what is found without entering an
element. -/
theorem locate?_eq_some_iff : v.locate? p = some w ↔ v.get? p = some w ∧ ¬ v.EntersElement p := by
  induction p generalizing v with
  | nil => exact (and_iff_left (not_entersElement_nil v)).symm
  | cons segment p ih =>
      by_cases hv : ∃ e, v = .element e
      · obtain ⟨e, rfl⟩ := hv
        have hnone : (Value.element e).locate? (segment :: p) = none := by
          rw [locate?_cons]
          rfl
        rw [hnone]
        exact iff_of_false nofun fun h => h.2 (entersElement_element e segment p)
      · have hv' : ∀ e, v ≠ .element e := not_exists.1 hv
        rw [locate?_cons, get?_cons hv', entersElement_cons_iff hv']
        cases hchild : v.child? segment with
        | none => simp
        | some child => simp [ih]

/-- Whether one path ends at a name of child elements of an element, and the next starts with
an index. -/
def PartsChildNumber (v : Value) (p q : Path) : Prop :=
  ∃ place name n rest e, p = place ++ [.key name] ∧ q = .index n :: rest ∧
    Element.NamesChildren name ∧ v.get? place = some (.element e)

/-- A key can be followed on its own, unless it names child elements. -/
theorem get?_key_cons {key : String} (h : ∀ e, v = .element e → ¬ Element.NamesChildren key)
    (rest : Path) :
    v.get? (.key key :: rest) = (v.get? [.key key]).bind fun w => w.get? rest := by
  by_cases hv : ∃ e, v = .element e
  · obtain ⟨e, rfl⟩ := hv
    rw [get?_element, get?_element]
    by_cases htext : key = Element.textKey
    · subst htext
      rw [Element.select?_text, Element.select?_text]
      exact Element.terminal_append (Element.isContainer_ofString? _) [] rest
    · cases hattribute : Element.attributeKey? key with
      | none => exact absurd ⟨htext, hattribute⟩ (h e rfl)
      | some name =>
          rw [Element.select?_of_attributeKey? hattribute,
            Element.select?_of_attributeKey? hattribute, Option.bind_assoc]
          congr 1
          funext value
          exact Element.terminal_append rfl [] rest
  · have hv' : ∀ e, v ≠ .element e := not_exists.1 hv
    rw [get?_cons hv', get?_cons hv', Option.bind_assoc]
    rfl

/-- Lookups compose, unless a number is parted from the name of the child elements among which
it counts. -/
theorem get?_append_of_not_partsChildNumber (h : ¬ v.PartsChildNumber p q) :
    v.get? (p ++ q) = (v.get? p).bind fun w => w.get? q := by
  by_cases hparts : p.PartsNumber q
  · obtain ⟨place, key, n, rest, rfl, rfl⟩ := hparts
    -- a key is not an index, so the paths may be parted before the key
    have hbefore := Path.not_partsNumber_key place key
    rw [List.append_assoc, List.singleton_append, get?_append (hbefore _),
      get?_append (hbefore []), Option.bind_assoc]
    refine Option.bind_congr fun w hw => ?_
    refine get?_key_cons (fun e he hname => h ?_) _
    exact ⟨place, key, n, rest, e, rfl, rfl, hname, he ▸ hw⟩
  · exact get?_append hparts

end Value

/-- Looking up one path and then another is looking up both in one, with one exception: an
index after the name of child elements counts these only when it is in the same lookup.  And
the lookup for a change finds what the other one finds without entering an element. -/
theorem lookup_composes (root : Value) (p q : Path) :
    (¬ root.PartsChildNumber p q →
      root.get? (p ++ q) = (root.get? p).bind fun v => v.get? q) ∧
    (∀ place name n rest e, p = place ++ [.key name] → q = .index n :: rest →
      Element.NamesChildren name → root.get? place = some (.element e) →
        root.get? (p ++ q) = (e.namedChild? name n).bind (fun child => child.select? rest) ∧
        (root.get? p).bind (fun v => v.get? q) = (e.namedChild? name 0).bind fun child =>
          child.childElements[n]?.bind fun grandchild => grandchild.select? rest) ∧
    ∀ v, root.locate? p = some v ↔ root.get? p = some v ∧ ¬ root.EntersElement p := by
  refine ⟨Value.get?_append_of_not_partsChildNumber, ?_, fun v => Value.locate?_eq_some_iff⟩
  rintro place name n rest e rfl rfl hname he
  have hbefore := Path.not_partsNumber_key place name
  constructor
  · rw [List.append_assoc, List.singleton_append, Value.get?_append (hbefore _), he,
      Option.bind_some, Value.get?_element, Element.select?_number hname]
  · rw [Value.get?_append (hbefore []), he, Option.bind_some, Value.get?_element,
      Element.select?_name hname Path.not_startsWithIndex_nil, Option.bind_assoc]
    rfl

/-- The second of two child elements has a text, and the first has no child elements. -/
theorem lookup_composes_second_child :
    let root := Value.element ⟨"r", [], [.element ⟨"a", [], []⟩,
      .element ⟨"a", [], [.text "x"]⟩]⟩
    root.get? [.key "a", .index 1, .key "#text"] = some (.string "x") ∧
      (root.get? [.key "a"]).bind (fun v => v.get? [.index 1, .key "#text"]) = none ∧
      (root.get? [.key "a", .index 1]).bind (fun v => v.get? [.key "#text"]) =
        some (.string "x") := by
  intro root
  have hname : Element.NamesChildren "a" := ⟨by decide, by decide⟩
  obtain ⟨hjoined, hparted⟩ := (lookup_composes root [.key "a"] [.index 1, .key "#text"]).2.1
    [] "a" 1 [.key "#text"] _ rfl rfl hname rfl
  have hwhole : ¬ root.PartsChildNumber [.key "a", .index 1] [.key "#text"] := by
    rintro ⟨_, _, _, _, _, -, h, -⟩
    cases h
  refine ⟨hjoined.trans rfl, hparted.trans rfl, ?_⟩
  exact ((lookup_composes root _ _).1 hwhole).symm.trans (hjoined.trans rfl)

end DocMatch
