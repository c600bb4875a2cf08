import DocMatch.Proofs.Compiled
/-!
Leaves of patterns, and plain patterns.  What holds of literals and of all markers that are read
holds of every leaf of what an expected value compiles to.  So this takes containers apart and
keeps no container as a literal, and of the parts of an actual value only markers and the
structure of the pattern see anything.
-/

namespace DocMatch

/-- Whether a leaf expects no container, so that it does not look at any parts. -/
def Leaf.IsPlain : Leaf → Prop
  | .marker _ => True
  | .literal v => v.isContainer = false

/-- Whether a property holds of all attributes and texts of an element and the elements in
it. -/
inductive ElementPattern.EveryLeaf (P : Leaf → Prop) : ElementPattern → Prop
  | leaf {name : String} {attributes : Fields Leaf} {text : Leaf}
      (hattributes : ∀ a ∈ attributes, P a.2) (htext : P text) :
      EveryLeaf P (.leaf name attributes text)
  | branch {name : String} {attributes : Fields Leaf} {children : List ElementPattern}
      (hattributes : ∀ a ∈ attributes, P a.2) (hchildren : ∀ child ∈ children, EveryLeaf P child) :
      EveryLeaf P (.branch name attributes children)

/-- Whether a property holds of all leaves of a pattern. -/
inductive Pattern.EveryLeaf (P : Leaf → Prop) : Pattern → Prop
  | leaf {l : Leaf} (hl : P l) : EveryLeaf P (.leaf l)
  | sequence {items : List Pattern} (hitems : ∀ p ∈ items, EveryLeaf P p) :
      EveryLeaf P (.sequence items)
  | mapping {entries : Fields Pattern} (hentries : ∀ entry ∈ entries, EveryLeaf P entry.2) :
      EveryLeaf P (.mapping entries)
  | element {e : ElementPattern} (he : e.EveryLeaf P) : EveryLeaf P (.element e)

/-- Whether the texts of an element and of all elements in it are plain. -/
inductive ElementPattern.Plain : ElementPattern → Prop
  | leaf {name : String} {attributes : Fields Leaf} {text : Leaf} (htext : text.IsPlain) :
      Plain (.leaf name attributes text)
  | branch {name : String} {attributes : Fields Leaf} {children : List ElementPattern}
      (hchildren : ∀ child ∈ children, Plain child) : Plain (.branch name attributes children)

/-- Whether all leaves of a pattern are plain. -/
inductive Pattern.Plain : Pattern → Prop
  | leaf {l : Leaf} (hl : l.IsPlain) : Plain (.leaf l)
  | sequence {items : List Pattern} (hitems : ∀ p ∈ items, Plain p) : Plain (.sequence items)
  | mapping {entries : Fields Pattern} (hentries : ∀ entry ∈ entries, Plain entry.2) :
      Plain (.mapping entries)
  | element {e : ElementPattern} (he : e.Plain) : Plain (.element e)

theorem ElementPattern.Plain.child {name : String} {attributes : Fields Leaf}
    {children : List ElementPattern} (h : (ElementPattern.branch name attributes children).Plain)
    {child : ElementPattern} (hchild : child ∈ children) : child.Plain := by
  cases h with
  | branch hchildren => exact hchildren child hchild

theorem Pattern.Plain.item {items : List Pattern} (h : (Pattern.sequence items).Plain)
    {p : Pattern} (hp : p ∈ items) : p.Plain := by
  cases h with
  | sequence hitems => exact hitems p hp

theorem Pattern.Plain.entry {entries : Fields Pattern} (h : (Pattern.mapping entries).Plain)
    {entry : String × Pattern} (hentry : entry ∈ entries) : entry.2.Plain := by
  cases h with
  | mapping hentries => exact hentries entry hentry

theorem Pattern.Plain.inside {e : ElementPattern} (h : (Pattern.element e).Plain) : e.Plain := by
  cases h with
  | element he => exact he

theorem ElementPattern.EveryLeaf.plain {e : ElementPattern} (h : e.EveryLeaf Leaf.IsPlain) :
    e.Plain := by
  induction h with
  | leaf _ htext => exact .leaf htext
  | branch _ _ ih => exact .branch ih

theorem Pattern.EveryLeaf.plain {p : Pattern} (h : p.EveryLeaf Leaf.IsPlain) : p.Plain := by
  induction h with
  | leaf hl => exact .leaf hl
  | sequence _ ih => exact .sequence ih
  | mapping _ ih => exact .mapping ih
  | element he => exact .element he.plain

/-- What holds of all results one by one holds of each. -/
theorem forall_of_forall₂ {α β : Type} {rel : α → β → Prop} {P : β → Prop} {values : List α}
    {results : List β} (h : List.Forall₂ rel values results)
    (himp : ∀ v ∈ values, ∀ r, rel v r → P r) : ∀ r ∈ results, P r := by
  induction h with
  | nil => exact nofun
  | cons hrel _ ih =>
      rw [List.forall_mem_cons] at himp ⊢
      exact ⟨himp.1 _ hrel, ih himp.2⟩

namespace Pattern

section Compile

variable {registry : Registry} {settings : Settings} {limit : Nat} {P : Leaf → Prop}
  (hliteral : ∀ v, v.isContainer = false → P (.literal v))
  (hmarker : ∀ {text m}, Marker.read registry text = .ok (some m) → P (.marker m))

include hliteral hmarker

theorem holds_of_readLeaf {text : String} {l : Leaf} (h : readLeaf registry text = .ok l) :
    P l := by
  unfold readLeaf at h
  split at h
  · cases h
    exact hliteral _ rfl
  · split at h
    · rename_i hread
      cases h
      exact hmarker hread
    · cases h
      exact hliteral _ rfl
    · cases h

theorem holds_of_readText {text : String} {l : Leaf}
    (h : readText registry settings text = .ok (.leaf l)) : P l := by
  unfold readText at h
  split at h
  · cases h
    exact hliteral _ rfl
  · split at h
    · rename_i hread
      cases h
      exact hmarker hread
    · cases h
    · split at h
      · cases h
      · cases h
        exact hliteral _ rfl

theorem everyLeaf_of_compileElement {room : Nat} :
    ∀ {e : Element} {p : ElementPattern},
      compileElement registry limit room e = .ok p → p.EveryLeaf P := by
  have hfields : ∀ {attributes : Fields String} {leaves : Fields Leaf},
      compileFields (readLeaf registry) attributes = .ok leaves → ∀ a ∈ leaves, P a.2 :=
    fun h => forall_of_forall₂ (compileFields_eq_ok_iff.1 h)
      fun _ _ _ ha => holds_of_readLeaf hliteral hmarker ha.2
  induction room with
  | zero => exact nofun
  | succ room ih =>
      intro e p h
      cases hleaf : e.isLeaf with
      | true =>
          obtain ⟨attributes, text, hattributes, htext, rfl⟩ :=
            (compileElement_leaf_iff hleaf).1 h
          refine .leaf (hfields hattributes) ?_
          split at htext
          · exact holds_of_readLeaf hliteral hmarker htext
          · cases htext
            exact hliteral _ rfl
      | false =>
          obtain ⟨attributes, children, hattributes, hchildren, rfl⟩ :=
            (compileElement_branch_iff hleaf).1 h
          exact .branch (hfields hattributes)
            (forall_of_forall₂ (compileList_eq_ok_iff.1 hchildren) fun _ _ _ => ih)

omit hmarker in
theorem everyLeaf_of_compileParts {inner : Value → Except MatchError Pattern}
    {element : Element → Except MatchError ElementPattern}
    (hinner : ∀ v p, inner v = .ok p → p.EveryLeaf P)
    (helement : ∀ e p, element e = .ok p → p.EveryLeaf P) {v : Value} {p : Pattern}
    (h : compileParts inner element v = .ok p) : p.EveryLeaf P := by
  cases v with
  | sequence items =>
      obtain ⟨results, hresults, rfl⟩ := map_eq_ok_iff.1 h
      exact .sequence (forall_of_forall₂ (compileList_eq_ok_iff.1 hresults) fun _ _ => hinner _)
  | mapping entries =>
      obtain ⟨results, hresults, rfl⟩ := map_eq_ok_iff.1 h
      exact .mapping (forall_of_forall₂ (compileFields_eq_ok_iff.1 hresults)
        fun _ _ _ hentry => hinner _ _ hentry.2)
  | element e =>
      obtain ⟨result, hresult, rfl⟩ := map_eq_ok_iff.1 h
      exact .element (helement e result hresult)
  | _ =>
      cases h
      exact .leaf (hliteral _ rfl)

/-- What holds of literals and of all markers that are read holds of all leaves of what an
expected value compiles to. -/
theorem everyLeaf_of_compileWithin {room : Nat} :
    ∀ {v : Value} {p : Pattern},
      compileWithin registry settings room v = .ok p → p.EveryLeaf P := by
  induction room with
  | zero => exact nofun
  | succ room ih =>
      intro v p h
      have hparts : ∀ {w : Value}, compileParts (compileWithin registry settings room)
          (compileElement registry settings.maxDepth (room + 1)) w = .ok p → p.EveryLeaf P :=
        everyLeaf_of_compileParts hliteral (fun _ _ => ih)
          fun _ _ => everyLeaf_of_compileElement hliteral hmarker
      cases hv : v.string? with
      | none =>
          rw [compileWithin_of_not_string hv] at h
          exact hparts h
      | some text =>
          cases v with
          | string text =>
              obtain ⟨reading, hreading, h⟩ := bind_eq_ok_iff.1 h
              cases reading with
              | leaf l =>
                  cases h
                  exact .leaf (holds_of_readText hliteral hmarker hreading)
              | document v => exact hparts h
          | _ => cases hv

end Compile

theorem plain_of_compileElement {registry : Registry} {limit room : Nat} {e : Element}
    {p : ElementPattern} (h : compileElement registry limit room e = .ok p) : p.Plain :=
  (everyLeaf_of_compileElement (fun _ hv => hv) (fun _ => trivial) h).plain

end Pattern

/-- What an expected value is compiled to looks at parts only through its structure. -/
theorem Matcher.plain_of_compile {m : Matcher} {expected : Value} {p : Pattern}
    (h : m.compile expected = .ok p) : p.Plain :=
  (Pattern.everyLeaf_of_compileWithin (fun _ hv => hv) (fun _ => trivial) h).plain

end DocMatch
