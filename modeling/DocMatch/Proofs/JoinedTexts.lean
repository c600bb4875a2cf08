import DocMatch.Proofs.ParsedMarkup
import Mathlib.Data.List.Chain
/-!
Texts side by side.  The markup of an element does not show where one text ends and the next
begins, so an element is printed like the one in which such texts are joined, and that can be
printed if the element can.
-/

namespace DocMatch

/-- Whether two children side by side are not both texts. -/
def Content.Apart (a b : Content Element) : Prop :=
  a.text? = none ∨ b.text? = none

theorem Content.apart_text_iff {t : String} {b : Content Element} :
    (Content.text t).Apart b ↔ b.text? = none := by
  simp [Apart, text?]

namespace Element

/-- Put a text in front of children, as a part of the first if that is a text. -/
def joinText (t : String) : List (Content Element) → List (Content Element)
  | .text u :: rest => .text (t ++ u) :: rest
  | children => .text t :: children

mutual

/-- The element with texts side by side joined, at every level. -/
def joined : Element → Element
  | ⟨name, attributes, children⟩ => ⟨name, attributes, joinedChildren children⟩

/-- Children with texts side by side joined, at every level. -/
def joinedChildren : List (Content Element) → List (Content Element)
  | [] => []
  | .element e :: rest => .element e.joined :: joinedChildren rest
  | .text t :: rest => joinText t (joinedChildren rest)

end

variable {name t : String} {attributes : Fields String} {content : Content Element}
  {children rest : List (Content Element)}

/-- A text in front of joined children is not beside another text. -/
theorem isChain_joinText (h : children.IsChain Content.Apart) :
    (joinText t children).IsChain Content.Apart := by
  unfold joinText
  split
  · rw [List.isChain_cons] at h ⊢
    simpa only [Content.apart_text_iff] using h
  · rename_i hchildren
    rw [List.isChain_cons]
    refine ⟨fun content hcontent => ?_, h⟩
    rw [Content.apart_text_iff]
    cases content with
    | element e => rfl
    | text u =>
        obtain ⟨others, rfl⟩ := List.head?_eq_some_iff.1 hcontent
        exact absurd rfl (hchildren u others)

theorem isChain_joinedChildren (children : List (Content Element)) :
    (joinedChildren children).IsChain Content.Apart := by
  induction children with
  | nil => exact List.IsChain.nil
  | cons content rest ih =>
      cases content with
      | element e =>
          rw [joinedChildren, List.isChain_cons]
          exact ⟨fun _ _ => .inl rfl, ih⟩
      | text t => exact isChain_joinText ih

theorem childrenChars_joinText (t : String) (children : List (Content Element)) :
    childrenChars (joinText t children) = escape t ++ childrenChars children := by
  unfold joinText
  split
  · simp [childrenChars, escape]
  · rfl

/-- Children that are joined are printed the same. -/
theorem childrenChars_joinedChildren
    (h : ∀ e, .element e ∈ children → e.joined.chars = e.chars) :
    childrenChars (joinedChildren children) = childrenChars children := by
  induction children with
  | nil => rfl
  | cons content rest ih =>
      have hrest := ih fun e he => h e (List.mem_cons_of_mem _ he)
      cases content with
      | element e =>
          rw [joinedChildren, childrenChars, childrenChars, h e List.mem_cons_self, hrest]
      | text t => rw [joinedChildren, childrenChars_joinText, childrenChars, hrest]

theorem joinText_ne_nil (t : String) (children : List (Content Element)) :
    joinText t children ≠ [] := by
  unfold joinText
  split <;> exact List.cons_ne_nil _ _

theorem joinedChildren_ne_nil (content : Content Element) (rest : List (Content Element)) :
    joinedChildren (content :: rest) ≠ [] := by
  cases content with
  | element e => exact List.cons_ne_nil _ _
  | text t => exact joinText_ne_nil t _

/-- The markup of an element that has children. -/
theorem chars_of_ne_nil (h : children ≠ []) :
    chars ⟨name, attributes, children⟩ =
      '<' :: (name.toList ++ (attributesChars attributes ++ (Markup.tagEnd false ++
        (childrenChars children ++ '<' :: '/' :: (name.toList ++ ['>']))))) := by
  obtain ⟨content, rest, rfl⟩ := List.exists_cons_of_ne_nil h
  simp [chars, Markup.tagEnd]

theorem chars_joined (e : Element) : e.joined.chars = e.chars := by
  induction e using Element.induct with
  | step e ih =>
      obtain ⟨name, attributes, children⟩ := e
      rw [joined]
      cases children with
      | nil => rfl
      | cons content rest =>
          rw [chars_of_ne_nil (joinedChildren_ne_nil content rest),
            chars_of_ne_nil (List.cons_ne_nil content rest), childrenChars_joinedChildren]
          exact fun e he => ih e (mem_childElements.2 he)

/-- Whether no two texts are side by side among the children of an element. -/
def IsJoined (e : Element) : Prop :=
  e.children.IsChain Content.Apart

theorem element_mem_joinText {e : Element} :
    .element e ∈ joinText t children ↔ .element e ∈ children := by
  unfold joinText
  split <;> simp

theorem exists_of_mem_joinedChildren {e : Element} (h : .element e ∈ joinedChildren children) :
    ∃ child, .element child ∈ children ∧ e = child.joined := by
  induction children with
  | nil => cases h
  | cons content rest ih =>
      have hrest : .element e ∈ joinedChildren rest →
          ∃ child, .element child ∈ content :: rest ∧ e = child.joined := by
        intro h
        obtain ⟨child, hchild, heq⟩ := ih h
        exact ⟨child, List.mem_cons_of_mem _ hchild, heq⟩
      cases content with
      | element first =>
          rcases List.mem_cons.1 h with heq | h
          · cases heq
            exact ⟨first, List.mem_cons_self, rfl⟩
          · exact hrest h
      | text t => exact hrest (element_mem_joinText.1 h)

theorem everywhere_isJoined (e : Element) : e.joined.Everywhere IsJoined := by
  induction e using Element.induct with
  | step e ih =>
      obtain ⟨name, attributes, children⟩ := e
      rw [everywhere_iff, joined]
      refine ⟨isChain_joinedChildren children, fun child hchild => ?_⟩
      obtain ⟨e, he, rfl⟩ := exists_of_mem_joinedChildren (mem_childElements.1 hchild)
      exact ih e (mem_childElements.2 he)

end Element

theorem TextPrintable.append {t u : String} (ht : TextPrintable t) (hu : TextPrintable u) :
    TextPrintable (t ++ u) := by
  refine ⟨?_, ⟨?_, ?_⟩, ?_⟩
  all_goals rw [String.toList_append]
  · exact List.append_ne_nil_of_left_ne_nil ht.ne_nil _
  · rw [List.head?_append_of_ne_nil _ ht.ne_nil]
    exact ht.trimmed.head
  · rw [List.getLast?_append_of_ne_nil _ hu.ne_nil]
    exact hu.trimmed.last
  · exact fun c hc => (List.mem_append.1 hc).elim (ht.document c) (hu.document c)

namespace Element

variable {t : String} {children : List (Content Element)}

theorem isPrintable_joinText (ht : TextPrintable t)
    (h : ∀ content ∈ children, content.IsPrintable) :
    ∀ content ∈ joinText t children, content.IsPrintable := by
  unfold joinText
  split
  · rw [List.forall_mem_cons] at h ⊢
    exact ⟨ht.append h.1, h.2⟩
  · exact List.forall_mem_cons.2 ⟨ht, h⟩

theorem isPrintable_joinedChildren (h : ∀ content ∈ children, content.IsPrintable)
    (hjoined : ∀ e, .element e ∈ children → e.joined.Everywhere IsPrintable) :
    ∀ content ∈ joinedChildren children, content.IsPrintable := by
  induction children with
  | nil => exact List.forall_mem_nil _
  | cons content rest ih =>
      rw [List.forall_mem_cons] at h
      have hrest := ih h.2 fun e he => hjoined e (List.mem_cons_of_mem _ he)
      cases content with
      | element e => exact List.forall_mem_cons.2 ⟨hjoined e List.mem_cons_self, hrest⟩
      | text t => exact isPrintable_joinText h.1 hrest

/-- Joined texts can be printed like their parts. -/
theorem everywhere_isPrintable_joined {e : Element} (h : e.Everywhere IsPrintable) :
    e.joined.Everywhere IsPrintable := by
  induction e using Element.induct with
  | step e ih =>
      obtain ⟨name, attributes, children⟩ := e
      obtain ⟨htag, hcontents⟩ := everywhere_isPrintable_iff.1 h
      rw [everywhere_isPrintable_iff, joined]
      refine ⟨htag, isPrintable_joinedChildren hcontents ?_⟩
      exact fun e he => ih e (mem_childElements.2 he) (hcontents _ he)

end Element

end DocMatch
