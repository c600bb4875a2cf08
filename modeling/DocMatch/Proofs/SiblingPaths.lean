import DocMatch.Proofs.Places
import DocMatch.Proofs.Walk
import Mathlib.Data.List.Nodup
/-!
The paths of the child elements of an element.  A child element is addressed by its name and by
its number among the child elements of that name.  Numbers only grow from one sibling to the next
of its name, so no two siblings share a path, and the lookup that counts the same siblings again
finds each of them at its own.
-/

namespace DocMatch.ElementPattern

/-- The path of a child element with a number among those of its name.  The first one of a name
goes without its number. -/
def numberedPath (name : String) (n : Nat) : Path :=
  if n = 0 then [.key name] else [.key name, .index n]

variable {seen : List String} {items : List Element} {place : Path}

theorem childPaths_cons (child : Element) (rest : List Element) :
    childPaths seen (child :: rest) =
      numberedPath child.name (seen.count child.name) :: childPaths (child.name :: seen) rest :=
  rfl

theorem numberedPath_ne_nil (name : String) (n : Nat) : numberedPath name n ≠ [] := by
  unfold numberedPath
  split <;> exact List.cons_ne_nil _ _

/-- A path tells the name and the number. -/
theorem numberedPath_inj {name other : String} {m n : Nat} :
    numberedPath name m = numberedPath other n ↔ name = other ∧ m = n := by
  constructor
  · intro h
    unfold numberedPath at h
    split at h <;> split at h <;> simp_all
  · rintro ⟨rfl, rfl⟩
    rfl

/-- The number of a sibling is at least that of the siblings of its name before it. -/
theorem exists_numberedPath_of_mem (hplace : place ∈ childPaths seen items) :
    ∃ name n, place = numberedPath name n ∧ seen.count name ≤ n := by
  induction items generalizing seen with
  | nil => cases hplace
  | cons child rest ih =>
      rw [childPaths_cons, List.mem_cons] at hplace
      rcases hplace with rfl | hplace
      · exact ⟨child.name, _, rfl, Nat.le_refl _⟩
      · obtain ⟨name, n, hname, hcount⟩ := ih hplace
        exact ⟨name, n, hname, Nat.le_trans List.count_le_count_cons hcount⟩

/-- No two siblings share a path. -/
theorem nodup_childPaths (seen : List String) (items : List Element) :
    (childPaths seen items).Nodup := by
  induction items generalizing seen with
  | nil => exact List.nodup_nil
  | cons child rest ih =>
      rw [childPaths_cons, List.nodup_cons]
      refine ⟨fun hmem => ?_, ih _⟩
      -- the siblings that follow count this one if they have its name
      obtain ⟨name, n, hplace, hcount⟩ := exists_numberedPath_of_mem hmem
      obtain ⟨rfl, rfl⟩ := numberedPath_inj.1 hplace
      rw [List.count_cons_self] at hcount
      omega

/-- Of an element whose child elements have plain names, each child element is found at its
path. -/
theorem select?_childPath {e : Element} {k : Nat} {child : Element}
    (hchild : e.childElements[k]? = some child)
    (hplace : (childPaths [] e.childElements)[k]? = some place) (hplain : child.HasPlainName) :
    e.select? place = some (.element child) := by
  have hselect := select?_childPaths (List.nil_append _).symm (by simp) hchild hplace hplain
    Path.not_startsWithIndex_nil
  rwa [List.append_nil, Element.select?] at hselect

end DocMatch.ElementPattern

namespace DocMatch

open ElementPattern (childPaths)

/-- Where the child elements of an element lie.  There is one path for each of them, no two paths
are the same, each goes on from the path of the element, and what it adds leads from the element
to exactly this child element. -/
theorem sibling_paths_lead_to_children (e : Element) (parent : Path)
    (hplain : ∀ child ∈ e.childElements, child.HasPlainName) :
    ((childPaths [] e.childElements).map (parent ++ ·)).length = e.childElements.length ∧
    ((childPaths [] e.childElements).map (parent ++ ·)).Nodup ∧
    ∀ (k : Nat) (path : Path),
      ((childPaths [] e.childElements).map (parent ++ ·))[k]? = some path →
      ∃ (added : Path) (child : Element), path = parent ++ added ∧ added ≠ [] ∧ e.childElements[k]? = some child ∧
        e.select? added = some (.element child) := by
  refine ⟨?_, ?_, ?_⟩
  · rw [List.length_map, ElementPattern.length_childPaths]
  · exact List.Nodup.map (List.append_right_injective parent) (ElementPattern.nodup_childPaths _ _)
  · intro k path hpath
    rw [List.getElem?_map, Option.map_eq_some_iff] at hpath
    obtain ⟨added, hadded, rfl⟩ := hpath
    have hk : k < e.childElements.length := by
      rw [← ElementPattern.length_childPaths []]
      exact (List.getElem?_eq_some_iff.1 hadded).1
    obtain ⟨name, n, rfl, -⟩ :=
      ElementPattern.exists_numberedPath_of_mem (List.mem_of_getElem? hadded)
    have hchild := List.getElem?_eq_getElem hk
    exact ⟨_, _, rfl, ElementPattern.numberedPath_ne_nil _ _, hchild,
      ElementPattern.select?_childPath hchild hadded (hplain _ (List.getElem_mem hk))⟩

/-- Names that take turns are numbered each for itself. -/
theorem alternating_siblings_have_own_paths :
    ∃ e a b c d : Element, e.childElements = [a, b, c, d] ∧
      a.name = c.name ∧ b.name = d.name ∧ a.name ≠ b.name ∧
      (∀ child ∈ e.childElements, child.HasPlainName) ∧
      (childPaths [] e.childElements).map ([.key "r"] ++ ·) =
        [[.key "r", .key "x"], [.key "r", .key "y"], [.key "r", .key "x", .index 1],
          [.key "r", .key "y", .index 1]] ∧
      e.select? [.key "y", .index 1] = some (.element d) := by
  obtain ⟨a, ha⟩ : ∃ a : Element, a = ⟨"x", [], [.text "1"]⟩ := ⟨_, rfl⟩
  obtain ⟨b, hb⟩ : ∃ b : Element, b = ⟨"y", [], [.text "2"]⟩ := ⟨_, rfl⟩
  obtain ⟨c, hc⟩ : ∃ c : Element, c = ⟨"x", [], []⟩ := ⟨_, rfl⟩
  obtain ⟨d, hd⟩ : ∃ d : Element, d = ⟨"y", [("z", "3")], []⟩ := ⟨_, rfl⟩
  obtain ⟨e, he⟩ : ∃ e : Element,
      e = ⟨"r", [], [.element a, .text "-", .element b, .element c, .element d]⟩ := ⟨_, rfl⟩
  have hchildren : e.childElements = [a, b, c, d] := by
    rw [he]
    rfl
  have hplain : ∀ child ∈ e.childElements, child.HasPlainName := by
    have hnames : ∀ name ∈ e.childElements.map Element.name,
        name ≠ Element.textKey ∧ Element.attributeKey? name = none := by
      rw [hchildren, ha, hb, hc, hd]
      decide
    exact fun child hchild => hnames _ (List.mem_map_of_mem hchild)
  have hpaths : (childPaths [] e.childElements).map ([.key "r"] ++ ·) =
      [[.key "r", .key "x"], [.key "r", .key "y"], [.key "r", .key "x", .index 1],
        [.key "r", .key "y", .index 1]] := by
    rw [hchildren, ha, hb, hc, hd]
    rfl
  obtain ⟨-, -, hlead⟩ := sibling_paths_lead_to_children e [.key "r"] hplain
  obtain ⟨added, child, hadded, -, hchild, hselect⟩ :=
    hlead 3 [.key "r", .key "y", .index 1] (by rw [hpaths]; rfl)
  obtain rfl : [.key "y", .index 1] = added := (List.cons.inj hadded).2
  obtain rfl : d = child := by
    rw [hchildren] at hchild
    exact Option.some.inj hchild
  refine ⟨e, a, b, c, d, hchildren, ?_, ?_, ?_, hplain, hpaths, hselect⟩
  · rw [ha, hc]
  · rw [hb, hd]
  · rw [ha, hb]
    decide

end DocMatch
