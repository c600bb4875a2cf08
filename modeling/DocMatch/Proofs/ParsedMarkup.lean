import DocMatch.Markup.Reader
import DocMatch.Proofs.Fields
import DocMatch.Proofs.MarkupTokens
import DocMatch.Proofs.Nodes
/-!
What a markup text can yield.  In an element that has been read every name is one, no
attribute has the name of a declaration, and every text is neither blank at its ends nor
empty.  All characters are such that a document may hold them.
-/

namespace DocMatch

namespace Markup

open Text (Trimmed)

/-- The character of a piece. -/
def Piece.char : Piece → Char
  | .literal c => c
  | .reference c => c

variable {c : Char} {s rest raw : List Char} {pieces : List Piece} {n : Nat}

theorem isDocumentChar_of_entity? {name : List Char} (h : entity? name = some c) :
    isDocumentChar c = true := by
  unfold entity? at h
  -- Each of the five entities stands for a character of its own.
  iterate 5
    split at h
    · cases h
      rfl
  cases h

theorem isDocumentChar_of_documentChar? (h : documentChar? n = some c) :
    isDocumentChar c = true := by
  simp only [documentChar?, Option.ite_none_right_eq_some, Option.some.injEq] at h
  obtain ⟨hc, rfl⟩ := h
  exact hc

theorem subset_of_span {p : Char → Bool} (h : (s.span p).2 = c :: rest) : rest ⊆ s := by
  have hdrop : c :: rest ⊆ s := by
    rw [← h, List.span_eq_takeWhile_dropWhile]
    exact (List.dropWhile_sublist p).subset
  exact List.subset_of_cons_subset hdrop

/-- A reference names a character of documents, and what follows it is a part of the text. -/
theorem readReference_eq_some (h : readReference s = some (c, rest)) :
    isDocumentChar c = true ∧ rest ⊆ s := by
  unfold readReference at h
  simp only at h
  split at h
  · split at h
    · rename_i hchar hrest
      cases h
      obtain ⟨n, -, hc⟩ := Option.bind_eq_some_iff.1 hchar
      have hsubset := List.subset_cons_of_subset '#' (List.subset_cons_of_subset 'x'
        (subset_of_span hrest))
      exact ⟨isDocumentChar_of_documentChar? hc, hsubset⟩
    · cases h
  · split at h
    · rename_i hchar hrest
      cases h
      obtain ⟨n, -, hc⟩ := Option.bind_eq_some_iff.1 hchar
      have hsubset := List.subset_cons_of_subset '#' (subset_of_span hrest)
      exact ⟨isDocumentChar_of_documentChar? hc, hsubset⟩
    · cases h
  · split at h
    · rename_i hchar hrest
      cases h
      exact ⟨isDocumentChar_of_entity? hchar, subset_of_span hrest⟩
    · cases h

/-- The pieces of a text of documents hold characters of documents. -/
theorem isDocumentChar_of_readPieces (hs : IsDocumentText s) (h : readPieces n s = some pieces) :
    ∀ piece ∈ pieces, isDocumentChar piece.char = true := by
  induction n generalizing s pieces with
  | zero =>
      cases s with
      | nil =>
          cases h
          exact List.forall_mem_nil _
      | cons c s => cases h
  | succ n ih =>
      cases s with
      | nil =>
          cases h
          exact List.forall_mem_nil _
      | cons c s =>
          rw [readPieces] at h
          rw [IsDocumentText, List.forall_mem_cons] at hs
          split at h
          · split at h
            · cases h
            · rename_i d rest hread
              obtain ⟨others, hothers, rfl⟩ := Option.map_eq_some_iff.1 h
              obtain ⟨hd, hrest⟩ := readReference_eq_some hread
              rw [List.forall_mem_cons]
              exact ⟨hd, ih (fun e he => hs.2 e (hrest he)) hothers⟩
          · obtain ⟨others, hothers, rfl⟩ := Option.map_eq_some_iff.1 h
            rw [List.forall_mem_cons]
            exact ⟨hs.1, ih hs.2 hothers⟩

theorem isDocumentText_attributeValue (h : ∀ piece ∈ pieces, isDocumentChar piece.char = true) :
    IsDocumentText (attributeValue pieces) := by
  have hspace : isDocumentChar ' ' = true := rfl
  fun_induction attributeValue pieces with
  | case1 => exact List.forall_mem_nil _
  | case2 c rest ih =>
      rw [List.forall_mem_cons] at h
      exact List.forall_mem_cons.2 ⟨h.1, ih h.2⟩
  | case3 rest ih =>
      rw [List.forall_mem_cons, List.forall_mem_cons] at h
      exact List.forall_mem_cons.2 ⟨hspace, ih h.2.2⟩
  | case4 c rest _ ih =>
      rw [List.forall_mem_cons] at h
      refine List.forall_mem_cons.2 ⟨?_, ih h.2⟩
      split
      · exact hspace
      · exact h.1

theorem isDocumentText_appendChar {reversed : List Char} (hreversed : IsDocumentText reversed)
    (hc : isDocumentChar c = true) (isLast : Bool) :
    IsDocumentText (appendChar reversed c isLast) := by
  have hline : isDocumentChar '\n' = true := rfl
  have hc' : isDocumentChar (if isLast && c = '\r' then '\n' else c) = true := by
    split
    · exact hline
    · exact hc
  unfold appendChar
  simp only
  split
  · rw [IsDocumentText, List.forall_mem_cons] at hreversed
    split
    · exact List.forall_mem_cons.2 ⟨hline, hreversed.2⟩
    · exact List.forall_mem_cons.2 ⟨hc', List.forall_mem_cons.2 ⟨hline, hreversed.2⟩⟩
  · exact List.forall_mem_cons.2 ⟨hc', hreversed⟩

theorem isDocumentText_textValue (h : ∀ piece ∈ pieces, isDocumentChar piece.char = true) :
    IsDocumentText (textValue pieces) := by
  have hpieces : ∀ reversed exempt, IsDocumentText reversed →
      IsDocumentText (appendPieces reversed exempt pieces) := by
    induction pieces with
    | nil => exact fun _ _ hreversed => hreversed
    | cons piece rest ih =>
        intro reversed exempt hreversed
        rw [List.forall_mem_cons] at h
        have hcons : IsDocumentText (piece.char :: reversed) :=
          List.forall_mem_cons.2 ⟨h.1, hreversed⟩
        cases piece with
        | reference c => exact ih h.2 _ _ hcons
        | literal c =>
            rw [appendPieces]
            split
            · exact ih h.2 _ _ hcons
            · exact ih h.2 _ _ (isDocumentText_appendChar hreversed h.1 _)
  intro c hc
  exact hpieces [] false (List.forall_mem_nil _) c (List.mem_reverse.1 hc)

theorem isDocumentText_characterDataValue (h : IsDocumentText raw) :
    IsDocumentText (characterDataValue raw) := by
  apply isDocumentText_textValue
  rwa [List.forall_mem_map]

/-- Whether the names in a token are names, and its other characters such that a document may
hold them. -/
def Token.IsSound : Token → Prop
  | .startTag name attributes _ =>
      IsName name.name ∧ ∀ entry ∈ attributes, IsName entry.1.name ∧ IsDocumentText entry.2
  | .text raw | .characterData raw => IsDocumentText raw
  | .endTag _ | .separator => True

theorem isName_of_ofParts? {qualifier name : List Char} {q : QName}
    (hname : ∀ c ∈ name, isNameChar c = true) (h : QName.ofParts? qualifier name = some q) :
    IsName q.name := by
  simp only [QName.ofParts?, Option.ite_none_right_eq_some, Option.some.injEq,
    Bool.and_eq_true] at h
  obtain ⟨⟨-, hstart⟩, rfl⟩ := h
  exact ⟨hstart, hname⟩

theorem isName_of_readQName {q : QName} (h : readQName s = some (q, rest)) : IsName q.name := by
  have hspan : ∀ s : List Char, ∀ c ∈ (s.span isNameChar).1, isNameChar c = true := by
    intro s c hc
    rw [List.span_eq_takeWhile_dropWhile] at hc
    exact List.mem_takeWhile_imp hc
  unfold readQName at h
  simp only at h
  split at h
  all_goals
    obtain ⟨q', hparts, heq⟩ := Option.map_eq_some_iff.1 h
    cases heq
    exact isName_of_ofParts? (hspan _) hparts

theorem isDocumentText_of_readValue {quote : Char} (h : readValue quote s = some (raw, rest)) :
    IsDocumentText raw := by
  induction s generalizing raw with
  | nil => cases h
  | cons c s ih =>
      rw [readValue] at h
      split at h
      · cases h
        exact List.forall_mem_nil _
      · split at h
        · cases h
        · rename_i hallowed
          simp only [Bool.or_eq_true, Bool.not_eq_true', not_or, Bool.not_eq_false] at hallowed
          obtain ⟨read, hread, heq⟩ := Option.map_eq_some_iff.1 h
          cases heq
          exact List.forall_mem_cons.2 ⟨hallowed.2, ih hread⟩

theorem isDocumentText_of_readUntil {delimiter : List Char}
    (h : readUntil delimiter s = some (raw, rest)) : IsDocumentText raw := by
  induction s generalizing raw with
  | nil => cases h
  | cons c s ih =>
      rw [readUntil] at h
      split at h
      · cases h
        exact List.forall_mem_nil _
      · split at h
        · rename_i hc
          obtain ⟨read, hread, heq⟩ := Option.map_eq_some_iff.1 h
          cases heq
          exact List.forall_mem_cons.2 ⟨hc, ih hread⟩
        · cases h

theorem readAttribute_sound {entry : QName × List Char} (h : readAttribute s = some (entry, rest)) :
    IsName entry.1.name ∧ IsDocumentText entry.2 := by
  obtain ⟨⟨q, after⟩, hname, h⟩ := Option.bind_eq_some_iff.1 h
  simp only at h
  split at h
  · split at h
    · split at h
      · obtain ⟨⟨raw, after⟩, hraw, h⟩ := Option.bind_eq_some_iff.1 h
        cases h
        exact ⟨isName_of_readQName hname, isDocumentText_of_readValue hraw⟩
      · cases h
    · cases h
  · cases h

theorem readAttributes_sound {attributes : List (QName × List Char)} {isEmpty : Bool}
    (h : readAttributes n s = some (attributes, isEmpty, rest)) :
    ∀ entry ∈ attributes, IsName entry.1.name ∧ IsDocumentText entry.2 := by
  induction n generalizing s attributes with
  | zero => cases h
  | succ n ih =>
      rw [readAttributes] at h
      split at h
      · cases h
        exact List.forall_mem_nil _
      · cases h
        exact List.forall_mem_nil _
      · split at h
        · obtain ⟨⟨first, after⟩, hfirst, h⟩ := Option.bind_eq_some_iff.1 h
          obtain ⟨⟨others, isEmpty', after'⟩, hothers, h⟩ := Option.bind_eq_some_iff.1 h
          cases h
          exact List.forall_mem_cons.2 ⟨readAttribute_sound hfirst, ih hothers⟩
        · cases h

variable {token : Token} {tokens : List Token}

theorem isSound_of_readTag (h : readTag s = some (token, rest)) : token.IsSound := by
  unfold readTag at h
  split at h
  · split at h
    · obtain ⟨⟨body, after⟩, -, h⟩ := Option.bind_eq_some_iff.1 h
      simp only [Option.ite_none_left_eq_some] at h
      cases h.2
      trivial
    · obtain ⟨⟨body, after⟩, hbody, h⟩ := Option.map_eq_some_iff.1 h
      cases h
      exact isDocumentText_of_readUntil hbody
    · cases h
  · unfold readInstruction at h
    simp only [Option.ite_none_left_eq_some, Option.ite_none_right_eq_some] at h
    obtain ⟨⟨body, after⟩, -, h⟩ := Option.bind_eq_some_iff.1 h.2.2
    cases h
    trivial
  · obtain ⟨⟨q, after⟩, -, h⟩ := Option.bind_eq_some_iff.1 h
    simp only at h
    split at h
    · cases h
      trivial
    · cases h
  · obtain ⟨⟨q, after⟩, hname, h⟩ := Option.bind_eq_some_iff.1 h
    obtain ⟨⟨attributes, isEmpty, after'⟩, hattributes, h⟩ := Option.bind_eq_some_iff.1 h
    cases h
    exact ⟨isName_of_readQName hname, readAttributes_sound hattributes⟩

theorem isSound_of_readText (h : readText s = some (token, rest)) : token.IsSound := by
  unfold readText at h
  simp only [Option.ite_none_right_eq_some, Option.some.injEq, Bool.and_eq_true,
    List.all_eq_true] at h
  obtain ⟨⟨hdocument, -⟩, heq⟩ := h
  cases heq
  exact hdocument

theorem isSound_of_readAll (h : readAll n s = some tokens) : ∀ token ∈ tokens, token.IsSound := by
  induction n generalizing s tokens with
  | zero =>
      cases s with
      | nil =>
          cases h
          exact List.forall_mem_nil _
      | cons c s => cases h
  | succ n ih =>
      cases s with
      | nil =>
          cases h
          exact List.forall_mem_nil _
      | cons c s =>
          rw [readAll] at h
          split at h
          · cases h
          · rename_i token rest hread
            obtain ⟨others, hothers, rfl⟩ := Option.map_eq_some_iff.1 h
            refine List.forall_mem_cons.2 ⟨?_, ih hothers⟩
            split at hread
            · exact isSound_of_readTag hread
            · exact isSound_of_readText hread

theorem isSound_of_tokens? (h : tokens? s = some tokens) : ∀ token ∈ tokens, token.IsSound := by
  simp only [tokens?] at h
  split at h
  · obtain ⟨body, -, hread⟩ := Option.bind_eq_some_iff.1 h
    exact isSound_of_readAll hread
  · exact isSound_of_readAll h

end Markup

open Markup (IsName IsDocumentText AttributesPrintable)

/-- What a text inside an element can be. -/
structure TextPrintable (t : String) : Prop where
  ne_nil : t.toList ≠ []
  trimmed : Text.Trimmed t.toList
  document : IsDocumentText t.toList

/-- What the name and the attributes of an element can be. -/
structure TagPrintable (name : String) (attributes : Fields String) : Prop where
  isName : IsName name.toList
  printable : AttributesPrintable attributes
  distinct : attributes.Distinct
  noDeclaration : ∀ entry ∈ attributes, entry.1 ≠ "xmlns"

/-- What an element can be, apart from the elements in it. -/
structure Element.IsPrintable (e : Element) : Prop where
  tag : TagPrintable e.name e.attributes
  texts : ∀ t, .text t ∈ e.children → TextPrintable t

/-- What a child of an element can be, with the elements in it. -/
def Content.IsPrintable : Content Element → Prop
  | .element e => e.Everywhere Element.IsPrintable
  | .text t => TextPrintable t

theorem Element.everywhere_isPrintable_iff {e : Element} :
    e.Everywhere IsPrintable ↔
      TagPrintable e.name e.attributes ∧ ∀ content ∈ e.children, content.IsPrintable := by
  rw [everywhere_iff]
  constructor
  · rintro ⟨⟨htag, htexts⟩, hchildren⟩
    refine ⟨htag, fun content hcontent => ?_⟩
    cases content with
    | element child => exact hchildren child (mem_childElements.2 hcontent)
    | text t => exact htexts t hcontent
  · rintro ⟨htag, hcontents⟩
    refine ⟨⟨htag, fun t ht => hcontents _ ht⟩, fun child hchild => ?_⟩
    exact hcontents _ (mem_childElements.1 hchild)

namespace Markup

section Attributes

variable {attributes others : List (QName × List Char)} {scope declared : Scope}

/-- The attributes of a tag that are no declarations. -/
theorem readDeclarations_sound
    (hattributes : ∀ entry ∈ attributes, IsName entry.1.name ∧ IsDocumentText entry.2)
    (h : readDeclarations attributes declared = some (scope, others)) :
    ∀ entry ∈ others,
      IsName entry.1.name ∧ entry.1.name ≠ "xmlns".toList ∧ IsDocumentText entry.2 := by
  induction attributes generalizing declared scope others with
  | nil =>
      cases h
      exact List.forall_mem_nil _
  | cons entry rest ih =>
      rw [List.forall_mem_cons] at hattributes
      obtain ⟨⟨hname, hraw⟩, hrest⟩ := hattributes
      obtain ⟨pieces, hpieces, h⟩ := Option.bind_eq_some_iff.1 h
      simp only at h
      split at h
      · obtain ⟨declared', -, h⟩ := Option.bind_eq_some_iff.1 h
        exact ih hrest h
      · split at h
        · split at h
          · cases h
          · exact ih hrest h
        · rename_i hxmlns
          obtain ⟨⟨declared', others'⟩, hothers, h⟩ := Option.bind_eq_some_iff.1 h
          cases h
          refine List.forall_mem_cons.2 ⟨⟨hname, hxmlns, ?_⟩, ih hrest hothers⟩
          exact isDocumentText_attributeValue (isDocumentChar_of_readPieces hraw hpieces)

/-- Resolved attributes are those of the tag without their qualifiers. -/
theorem exists_of_resolveAttributes {seen : List (Option (List Char) × List Char)}
    {resolved : List (String × String)} (h : resolveAttributes scope others seen = some resolved) :
    ∀ entry ∈ resolved, ∃ other ∈ others,
      entry = (String.ofList other.1.name, String.ofList other.2) := by
  induction others generalizing seen resolved with
  | nil =>
      cases h
      exact List.forall_mem_nil _
  | cons other rest ih =>
      obtain ⟨space, -, h⟩ := Option.bind_eq_some_iff.1 h
      simp only [Option.ite_none_left_eq_some] at h
      obtain ⟨resolved', hresolved, h⟩ := Option.bind_eq_some_iff.1 h.2
      cases h
      refine List.forall_mem_cons.2 ⟨⟨other, List.mem_cons_self, rfl⟩, ?_⟩
      intro entry hentry
      obtain ⟨other', hother, heq⟩ := ih hresolved entry hentry
      exact ⟨other', List.mem_cons_of_mem _ hother, heq⟩

end Attributes

/-- Whether what has been read of an open element can be printed. -/
structure Frame.IsPrintable (f : Frame) : Prop where
  tag : TagPrintable (String.ofList f.name.name) f.attributes
  before : ∀ content ∈ f.before, content.IsPrintable
  pending : IsDocumentText f.pending

theorem isPrintable_of_openFrame {scope : Scope} {name : QName}
    {attributes : List (QName × List Char)} {frame : Frame} (hname : IsName name.name)
    (hattributes : ∀ entry ∈ attributes, IsName entry.1.name ∧ IsDocumentText entry.2)
    (h : openFrame scope name attributes = some frame) : frame.IsPrintable := by
  simp only [openFrame, Option.ite_none_left_eq_some] at h
  obtain ⟨⟨declared, others⟩, hothers, h⟩ := Option.bind_eq_some_iff.1 h.2
  obtain ⟨resolved, hresolved, h⟩ := Option.bind_eq_some_iff.1 h
  simp only [Option.ite_none_right_eq_some] at h
  cases h.2
  have hentries : ∀ entry ∈ Fields.ofList resolved, (IsName entry.1.toList ∧
      IsDocumentText entry.2.toList) ∧ entry.1 ≠ "xmlns" := by
    intro entry hentry
    obtain ⟨other, hother, rfl⟩ :=
      exists_of_resolveAttributes hresolved entry (Fields.mem_of_mem_ofList entry hentry)
    obtain ⟨hother, hxmlns, hvalue⟩ := readDeclarations_sound hattributes hothers other hother
    rw [String.toList_ofList, String.toList_ofList]
    refine ⟨⟨hother, hvalue⟩, fun heq => hxmlns ?_⟩
    rw [← heq, String.toList_ofList]
  refine ⟨⟨?_, fun entry hentry => (hentries entry hentry).1, Fields.distinct_ofList _,
    fun entry hentry => (hentries entry hentry).2⟩, List.forall_mem_nil _, List.forall_mem_nil _⟩
  rwa [String.toList_ofList]

namespace Frame

variable {f : Frame}

/-- Flushing keeps all of a frame but its pending text and, at most, adds that to the children. -/
theorem flush_cases (f : Frame) :
    (Text.trim f.pending = [] ∧ f.flush = { f with pending := [] }) ∨
    (Text.trim f.pending ≠ [] ∧ f.flush =
      { f with
        before := .text (String.ofList (Text.trim f.pending)) :: f.before, pending := [] }) := by
  rw [flush]
  split
  · rename_i htrim
    exact .inl ⟨htrim, rfl⟩
  · rename_i hne
    exact .inr ⟨hne, rfl⟩

theorem IsPrintable.flush (h : f.IsPrintable) : f.flush.IsPrintable := by
  obtain ⟨-, hflush⟩ | ⟨hne, hflush⟩ := flush_cases f
  · rw [hflush]
    exact ⟨h.tag, h.before, List.forall_mem_nil _⟩
  · rw [hflush]
    refine ⟨h.tag, List.forall_mem_cons.2 ⟨?_, h.before⟩, List.forall_mem_nil _⟩
    refine ⟨?_, ?_, ?_⟩
    all_goals rw [String.toList_ofList]
    · exact hne
    · exact Text.trimmed_trim _
    · exact fun c hc => h.pending c (Text.trim_subset _ hc)

theorem IsPrintable.addText {text : List Char} (h : f.IsPrintable) (htext : IsDocumentText text) :
    (f.addText text).IsPrintable := by
  refine ⟨h.tag, h.before, ?_⟩
  intro c hc
  exact (List.mem_append.1 hc).elim (h.pending c) (htext c)

theorem IsPrintable.addElement {e : Element} (h : f.IsPrintable)
    (he : e.Everywhere Element.IsPrintable) : (f.addElement e).IsPrintable :=
  ⟨h.tag, List.forall_mem_cons.2 ⟨he, h.before⟩, h.pending⟩

theorem IsPrintable.close (h : f.IsPrintable) : f.close.Everywhere Element.IsPrintable := by
  rw [Element.everywhere_isPrintable_iff]
  refine ⟨h.tag, fun content hcontent => ?_⟩
  exact h.flush.before content (List.mem_reverse.1 hcontent)

end Frame

/-- Whether all that has been read of a document can be printed. -/
def State.IsPrintable : State → Prop
  | .prolog => True
  | .inside frame around => ∀ f ∈ frame :: around, f.IsPrintable
  | .epilog root => root.Everywhere Element.IsPrintable

theorem isPrintable_attach {e : Element} {around : List Frame}
    (he : e.Everywhere Element.IsPrintable) (haround : ∀ f ∈ around, f.IsPrintable) :
    (attach e around).IsPrintable := by
  cases around with
  | nil => exact he
  | cons parent around =>
      rw [List.forall_mem_cons] at haround
      exact List.forall_mem_cons.2 ⟨haround.1.addElement he, haround.2⟩

theorem isPrintable_of_start {stack : List Frame} {scope : Scope} {name : QName}
    {attributes : List (QName × List Char)} {isEmpty : Bool} {state : State}
    (hstack : ∀ f ∈ stack, f.IsPrintable)
    (htoken : (Token.startTag name attributes isEmpty).IsSound)
    (h : start stack scope name attributes isEmpty = some state) : state.IsPrintable := by
  obtain ⟨frame, hframe, rfl⟩ := Option.map_eq_some_iff.1 h
  have hprintable := isPrintable_of_openFrame htoken.1 htoken.2 hframe
  split
  · exact isPrintable_attach hprintable.close hstack
  · exact List.forall_mem_cons.2 ⟨hprintable, hstack⟩

/-- One token keeps what has been read printable. -/
theorem State.IsPrintable.next {state after : State} {token : Token} (hstate : state.IsPrintable)
    (htoken : token.IsSound) (h : state.next token = some after) : after.IsPrintable := by
  unfold State.next at h
  split at h
  · exact isPrintable_of_start (List.forall_mem_nil _) htoken h
  · cases h
    trivial
  · simp only [Option.ite_none_right_eq_some] at h
    cases h.2
    trivial
  · obtain ⟨hframe, haround⟩ := List.forall_mem_cons.1 hstate
    exact isPrintable_of_start (List.forall_mem_cons.2 ⟨hframe.flush, haround⟩) htoken h
  · simp only [Option.ite_none_right_eq_some] at h
    cases h.2
    obtain ⟨hframe, haround⟩ := List.forall_mem_cons.1 hstate
    exact isPrintable_attach hframe.close haround
  · obtain ⟨hframe, haround⟩ := List.forall_mem_cons.1 hstate
    obtain ⟨pieces, hpieces, rfl⟩ := Option.map_eq_some_iff.1 h
    have htext := isDocumentText_textValue (isDocumentChar_of_readPieces htoken hpieces)
    exact List.forall_mem_cons.2 ⟨hframe.addText htext, haround⟩
  · cases h
    obtain ⟨hframe, haround⟩ := List.forall_mem_cons.1 hstate
    have htext := isDocumentText_characterDataValue htoken
    exact List.forall_mem_cons.2 ⟨hframe.addText htext, haround⟩
  · cases h
    obtain ⟨hframe, haround⟩ := List.forall_mem_cons.1 hstate
    exact List.forall_mem_cons.2 ⟨hframe.flush, haround⟩
  · cases h
    exact hstate
  · simp only [Option.ite_none_right_eq_some] at h
    cases h.2
    exact hstate
  · cases h

theorem State.IsPrintable.run {state after : State} {tokens : List Token}
    (hstate : state.IsPrintable) (htokens : ∀ token ∈ tokens, token.IsSound)
    (h : state.run tokens = some after) : after.IsPrintable := by
  induction tokens generalizing state with
  | nil =>
      cases h
      exact hstate
  | cons token rest ih =>
      rw [List.forall_mem_cons] at htokens
      obtain ⟨middle, hmiddle, hrest⟩ := Option.bind_eq_some_iff.1 h
      exact ih (hstate.next htokens.1 hmiddle) htokens.2 hrest

/-- An element that has been read can be printed, with all elements in it. -/
theorem isPrintable_of_read? {e : Element} (h : read? s = some e) :
    e.Everywhere Element.IsPrintable := by
  obtain ⟨tokens, htokens, h⟩ := Option.bind_eq_some_iff.1 h
  unfold ofTokens? at h
  split at h
  · rename_i hrun
    cases h
    have hprolog : State.prolog.IsPrintable := trivial
    exact hprolog.run (isSound_of_tokens? htokens) hrun
  · cases h

end Markup

end DocMatch
