import DocMatch.Proofs.JoinedTexts
import DocMatch.Value.Document
/-!
Elements printed as markup and read back.  The tokens of the markup rebuild the element with
its texts joined and its line ends and blanks as reading changes them, which gives the element
itself exactly if it holds no blank that is changed.
-/

namespace DocMatch

namespace Element

/-- What comes back for an attribute value. -/
def rereadValue (value : String) : String :=
  String.ofList (Markup.attributeValue (value.toList.map Markup.pieceOf))

/-- What comes back for a text. -/
def rereadText (t : String) : String :=
  String.ofList (Markup.relined t.toList)

mutual

/-- What comes back for an element in which no texts are side by side. -/
def reread : Element → Element
  | ⟨name, attributes, children⟩ =>
      ⟨name, Fields.mapValues rereadValue attributes, rereadChildren children⟩

/-- What comes back for children. -/
def rereadChildren : List (Content Element) → List (Content Element)
  | [] => []
  | .element e :: rest => .element e.reread :: rereadChildren rest
  | .text t :: rest => .text (rereadText t) :: rereadChildren rest

end

variable {name : String} {attributes : Fields String} {children : List (Content Element)}

open Markup (Token Reads rawAttributes tagEnd reads_startTag reads_endTag reads_text)

mutual

/-- The tokens of the markup of an element in which no texts are side by side. -/
def tokens : Element → List Token
  | ⟨name, attributes, []⟩ => [.startTag ⟨[], name.toList⟩ (rawAttributes attributes) true]
  | ⟨name, attributes, child :: rest⟩ =>
      .startTag ⟨[], name.toList⟩ (rawAttributes attributes) false ::
        childrenTokens (child :: rest) ++ [.endTag ⟨[], name.toList⟩]

/-- The tokens of the markup of children. -/
def childrenTokens : List (Content Element) → List Token
  | [] => []
  | .element e :: rest => e.tokens ++ childrenTokens rest
  | .text t :: rest => .text (escape t) :: childrenTokens rest

end

variable {rest : List Char} {tokens : List Token}

theorem head?_chars (e : Element) : e.chars.head? = some '<' := by
  obtain ⟨name, attributes, children⟩ := e
  cases children <;> rfl

/-- Children that do not start with a text start with a tag. -/
theorem head?_childrenChars_append (hchildren : ∀ content ∈ children.head?, content.text? = none)
    (hrest : ∀ c ∈ rest.head?, c = '<') :
    ∀ c ∈ (childrenChars children ++ rest).head?, c = '<' := by
  cases children with
  | nil => exact hrest
  | cons content others =>
      cases content with
      | element e =>
          rw [childrenChars, List.append_assoc, List.head?_append, head?_chars]
          rintro c ⟨⟩
          rfl
      | text t => cases hchildren _ rfl

/-- Children whose texts are not side by side are read one by one, up to the next tag. -/
theorem reads_childrenChars (hprintable : ∀ content ∈ children, content.IsPrintable)
    (hapart : children.IsChain Content.Apart)
    (h : ∀ e, .element e ∈ children → ∀ rest tokens, Reads rest tokens →
      Reads (e.chars ++ rest) (e.tokens ++ tokens))
    (hless : ∀ c ∈ rest.head?, c = '<') (hrest : Reads rest tokens) :
    Reads (childrenChars children ++ rest) (childrenTokens children ++ tokens) := by
  induction children with
  | nil => exact hrest
  | cons content others ih =>
      rw [List.forall_mem_cons] at hprintable
      rw [List.isChain_cons] at hapart
      have hothers := ih hprintable.2 hapart.2 fun e he => h e (List.mem_cons_of_mem _ he)
      cases content with
      | element e =>
          rw [childrenChars, childrenTokens, List.append_assoc, List.append_assoc]
          exact h e List.mem_cons_self _ _ hothers
      | text t =>
          have hnext : ∀ content ∈ others.head?, content.text? = none :=
            fun content hcontent => Content.apart_text_iff.1 (hapart.1 content hcontent)
          have ht : TextPrintable t := hprintable.1
          rw [childrenChars, childrenTokens, List.append_assoc, List.cons_append]
          exact reads_text ht.ne_nil ht.document (head?_childrenChars_append hnext hless) hothers

/-- The markup of an element is cut into its tokens. -/
theorem reads_chars {e : Element} (hprintable : e.Everywhere IsPrintable)
    (hjoined : e.Everywhere IsJoined) : ∀ rest tokens, Reads rest tokens →
      Reads (e.chars ++ rest) (e.tokens ++ tokens) := by
  induction e using Element.induct with
  | step e ih =>
      intro rest tokens hrest
      obtain ⟨name, attributes, children⟩ := e
      obtain ⟨htag, hcontents⟩ := everywhere_isPrintable_iff.1 hprintable
      obtain ⟨hapart, hchildren⟩ := everywhere_iff.1 hjoined
      cases children with
      | nil =>
          have hread := reads_startTag htag.isName htag.printable true hrest
          simpa [chars, Element.tokens, tagEnd] using hread
      | cons content others =>
          have hend : Reads ('<' :: '/' :: (name.toList ++ '>' :: rest))
              (.endTag ⟨[], name.toList⟩ :: tokens) := reads_endTag htag.isName hrest
          have hcontent := reads_childrenChars hcontents hapart
            (fun e he => ih e (mem_childElements.2 he) (hcontents _ he)
              (hchildren e (mem_childElements.2 he)))
            (by simp) hend
          have hread := reads_startTag htag.isName htag.printable false hcontent
          rw [chars_of_ne_nil (List.cons_ne_nil content others)]
          simpa [Element.tokens, List.append_assoc] using hread

end Element

namespace Markup

open Element (rereadValue rereadText rereadChildren)

theorem State.run_cons {state after : State} {token : Token} {tokens : List Token}
    (h : state.next token = some after) : state.run (token :: tokens) = after.run tokens := by
  rw [State.run, h]
  rfl

variable {name : String} {attributes : Fields String} {scope : Scope} {frame : Frame}
  {around : List Frame}

/-- The attributes of a printed tag, decoded. -/
def decodedAttributes (attributes : Fields String) : List (QName × List Char) :=
  attributes.map fun entry => (⟨[], entry.1.toList⟩, attributeValue (entry.2.toList.map pieceOf))

theorem readDeclarations_rawAttributes (h : ∀ entry ∈ attributes, entry.1 ≠ "xmlns")
    (declared : Scope) : readDeclarations (rawAttributes attributes) declared =
      some (declared, decodedAttributes attributes) := by
  induction attributes with
  | nil => rfl
  | cons entry rest ih =>
      rw [List.forall_mem_cons] at h
      have hname : entry.1.toList ≠ "xmlns".toList := fun heq => h.1 (String.toList_inj.1 heq)
      have hpieces : pieces? (Element.escape entry.2) = some (entry.2.toList.map pieceOf) :=
        pieces?_flatMap_escapeChar _
      have hqualifier : ¬ ([] : List Char) = "xmlns".toList := by decide
      rw [rawAttributes, List.map_cons, readDeclarations, hpieces, Option.bind_eq_bind,
        Option.bind_some, if_neg hqualifier, if_neg hname, ← rawAttributes, ih h.2]
      rfl

theorem resolveAttributes_decodedAttributes (hdistinct : attributes.Distinct)
    (seen : List (Option (List Char) × List Char))
    (hseen : ∀ entry ∈ attributes, (none, entry.1.toList) ∉ seen) :
    resolveAttributes scope (decodedAttributes attributes) seen =
      some (Fields.mapValues rereadValue attributes) := by
  induction attributes generalizing seen with
  | nil => rfl
  | cons entry rest ih =>
      rw [List.forall_mem_cons] at hseen
      obtain ⟨hnew, hrest⟩ := List.nodup_cons.1 hdistinct
      have hspace : attributeSpace scope ⟨[], entry.1.toList⟩ = some none := rfl
      have hcontains : seen.contains (none, entry.1.toList) = false := by
        simpa using hseen.1
      have hothers : ∀ other ∈ rest,
          (none, other.1.toList) ∉ (none, entry.1.toList) :: seen := by
        intro other hother hmem
        rcases List.mem_cons.1 hmem with heq | hmem
        · have hname : other.1 = entry.1 := String.toList_inj.1 (Prod.mk.inj heq).2
          exact hnew (hname ▸ List.mem_map_of_mem hother)
        · exact hseen.2 other hother hmem
      rw [decodedAttributes, List.map_cons, resolveAttributes, hspace, Option.bind_eq_bind,
        Option.bind_some, hcontains, ← decodedAttributes, ih hrest _ hothers]
      simp [Fields.mapValues, rereadValue]

/-- A printed tag opens its element again. -/
theorem openFrame_rawAttributes (h : TagPrintable name attributes) (scope : Scope) :
    openFrame scope ⟨[], name.toList⟩ (rawAttributes attributes) =
      some ⟨⟨[], name.toList⟩, Fields.mapValues rereadValue attributes, scope, [], []⟩ := by
  have hdistinct : Fields.Distinct (Fields.mapValues rereadValue attributes) := by
    rw [Fields.Distinct, Fields.keys_mapValues]
    exact h.distinct
  have hresolve : resolveAttributes scope (decodedAttributes attributes) [] =
      some (Fields.mapValues rereadValue attributes) :=
    resolveAttributes_decodedAttributes h.distinct [] fun _ _ => List.not_mem_nil
  have hqualifier : ¬ ([] : List Char) = "xmlns".toList := by decide
  rw [openFrame, if_neg hqualifier, readDeclarations_rawAttributes h.noDeclaration]
  simp only [Option.bind_eq_bind, Option.bind_some, List.nil_append, hresolve,
    Fields.ofList_of_distinct hdistinct]
  rfl

/-- The frames that an element opened now would have around it. -/
def State.around? : State → Option (List Frame)
  | .prolog => some []
  | .inside frame around => some (frame.flush :: around)
  | .epilog _ => none

theorem exists_next_eq_start {state : State} (h : state.around? = some around) :
    ∃ scope, ∀ name attributes isEmpty,
      state.next (.startTag name attributes isEmpty) =
        start around scope name attributes isEmpty := by
  cases state with
  | prolog =>
      cases h
      exact ⟨[], fun _ _ _ => rfl⟩
  | inside frame others =>
      cases h
      exact ⟨frame.flush.scope, fun _ _ _ => rfl⟩
  | epilog root => cases h

namespace Frame

theorem flush_tag (f : Frame) : f.flush.name = f.name ∧ f.flush.attributes = f.attributes := by
  obtain ⟨-, hflush⟩ | ⟨-, hflush⟩ := flush_cases f <;> rw [hflush] <;> exact ⟨rfl, rfl⟩

theorem flush_pending (f : Frame) : f.flush.pending = [] := by
  obtain ⟨-, hflush⟩ | ⟨-, hflush⟩ := flush_cases f <;> rw [hflush]

theorem flush_of_pending_eq_nil {f : Frame} (h : f.pending = []) : f.flush.before = f.before := by
  obtain ⟨-, hflush⟩ | ⟨hne, -⟩ := flush_cases f
  · rw [hflush]
  · rw [h] at hne
    exact absurd rfl hne

/-- A text that is trimmed and not empty becomes a child. -/
theorem flush_of_trimmed {f : Frame} (hne : f.pending ≠ []) (h : Text.Trimmed f.pending) :
    f.flush.before = .text (String.ofList f.pending) :: f.before := by
  obtain ⟨hnil, -⟩ | ⟨-, hflush⟩ := flush_cases f
  · rw [h.trim_eq] at hnil
    exact absurd hnil hne
  · rw [hflush, h.trim_eq]

end Frame

variable {children : List (Content Element)} {e : Element}

/-- A printed text is added to the text of its element. -/
theorem next_text {t : String} (around : List Frame) (ht : TextPrintable t)
    (hpending : frame.pending = []) :
    ∃ f : Frame, (State.inside frame around).next (.text (Element.escape t)) =
        some (.inside f around) ∧ f.name = frame.name ∧ f.attributes = frame.attributes ∧
      f.flush.before = .text (rereadText t) :: frame.before := by
  have hlast : ∀ before, t.toList ≠ before ++ ['\r'] := by
    intro before heq
    have hblank := ht.trimmed.last '\r'
    rw [heq, List.getLast?_append_of_ne_nil _ (List.cons_ne_nil _ _)] at hblank
    cases hblank rfl
  have hpieces : pieces? (Element.escape t) = some (t.toList.map pieceOf) :=
    pieces?_flatMap_escapeChar _
  refine ⟨frame.addText (relined t.toList), ?_, rfl, rfl, ?_⟩
  · rw [State.next, hpieces, Option.map_some, textValue_map_pieceOf hlast]
  · have htext : (frame.addText (relined t.toList)).pending = relined t.toList := by
      rw [Frame.addText, hpending, List.nil_append]
    rw [Frame.flush_of_trimmed (by rw [htext]; exact relined_ne_nil ht.ne_nil)
      (by rw [htext]; exact trimmed_relined ht.trimmed), htext]
    rfl

/-- Whether the tokens of an element hand what comes back for it to the frames around. -/
def Rebuilds (e : Element) : Prop :=
  ∀ state around tokens, State.around? state = some around →
    state.run (e.tokens ++ tokens) = (attach e.reread around).run tokens

/-- The tokens of children and of the end of their element rebuild the element.  The texts
inside are taken up while no other text is pending. -/
theorem run_childrenTokens (frame : Frame) (around : List Frame) (tokens : List Token)
    (hprintable : ∀ content ∈ children, content.IsPrintable)
    (hapart : children.IsChain Content.Apart)
    (h : ∀ e, .element e ∈ children → Rebuilds e)
    (hpending : ∀ t, children.head? = some (.text t) → frame.pending = []) :
    (State.inside frame around).run
        (Element.childrenTokens children ++ .endTag frame.name :: tokens) =
      (attach ⟨String.ofList frame.name.name, frame.attributes,
        frame.flush.before.reverse ++ rereadChildren children⟩ around).run tokens := by
  induction children generalizing frame with
  | nil =>
      rw [rereadChildren, List.append_nil]
      exact State.run_cons (if_pos rfl)
  | cons content others ih =>
      rw [List.forall_mem_cons] at hprintable
      rw [List.isChain_cons] at hapart
      have hothers : ∀ e, .element e ∈ others → Rebuilds e :=
        fun e he => h e (List.mem_cons_of_mem _ he)
      cases content with
      | element e =>
          have hname : (frame.flush.addElement e.reread).name = frame.name := frame.flush_tag.1
          have hattributes : (frame.flush.addElement e.reread).attributes = frame.attributes :=
            frame.flush_tag.2
          have hbefore : (frame.flush.addElement e.reread).flush.before =
              .element e.reread :: frame.flush.before :=
            Frame.flush_of_pending_eq_nil frame.flush_pending
          have hnext := h e List.mem_cons_self (.inside frame around) _
            (Element.childrenTokens others ++ .endTag frame.name :: tokens) rfl
          have hrest := ih (frame.flush.addElement e.reread) hprintable.2 hapart.2 hothers
            fun _ _ => frame.flush_pending
          rw [hname, hattributes, hbefore] at hrest
          rw [Element.childrenTokens, List.append_assoc, hnext]
          refine hrest.trans ?_
          rw [rereadChildren, List.reverse_cons, List.append_assoc]
          rfl
      | text t =>
          obtain ⟨f, hnext, hname, hattributes, hbefore⟩ :=
            next_text around hprintable.1 (hpending t rfl)
          have hrest := ih f hprintable.2 hapart.2 hothers
            fun u hu => nomatch Content.apart_text_iff.1 (hapart.1 _ hu)
          rw [hname, hattributes, hbefore] at hrest
          rw [Element.childrenTokens, List.cons_append, State.run_cons hnext, hrest,
            Frame.flush_of_pending_eq_nil (hpending t rfl), rereadChildren, List.reverse_cons,
            List.append_assoc]
          rfl

theorem rebuilds (hprintable : e.Everywhere Element.IsPrintable)
    (hjoined : e.Everywhere Element.IsJoined) : Rebuilds e := by
  induction e using Element.induct with
  | step e ih =>
      intro state around tokens hstate
      obtain ⟨name, attributes, children⟩ := e
      obtain ⟨htag, hcontents⟩ := Element.everywhere_isPrintable_iff.1 hprintable
      obtain ⟨hapart, hchildren⟩ := Element.everywhere_iff.1 hjoined
      obtain ⟨scope, hstart⟩ := exists_next_eq_start hstate
      have hopen := openFrame_rawAttributes htag scope
      cases children with
      | nil =>
          have hclose : Frame.close ⟨⟨[], name.toList⟩, Fields.mapValues rereadValue attributes,
              scope, [], []⟩ = Element.reread ⟨name, attributes, []⟩ := by
            rw [Frame.close, Frame.flush_of_pending_eq_nil rfl, String.ofList_toList]
            rfl
          have hnext : state.next (.startTag ⟨[], name.toList⟩ (rawAttributes attributes) true) =
              some (attach (Element.reread ⟨name, attributes, []⟩) around) := by
            rw [hstart, start, hopen, Option.map_some, if_pos rfl, hclose]
          rw [Element.tokens]
          exact State.run_cons hnext
      | cons content others =>
          have hnext : state.next (.startTag ⟨[], name.toList⟩ (rawAttributes attributes) false) =
              some (.inside ⟨⟨[], name.toList⟩, Fields.mapValues rereadValue attributes, scope,
                [], []⟩ around) := by
            rw [hstart, start, hopen]
            rfl
          have hrun := run_childrenTokens
            ⟨⟨[], name.toList⟩, Fields.mapValues rereadValue attributes, scope, [], []⟩ around
            tokens hcontents hapart
            (fun e he => ih e (Element.mem_childElements.2 he) (hcontents _ he)
              (hchildren e (Element.mem_childElements.2 he)))
            fun _ _ => rfl
          rw [Frame.flush_of_pending_eq_nil rfl, String.ofList_toList] at hrun
          rw [Element.tokens, List.cons_append, List.cons_append, List.append_assoc,
            State.run_cons hnext]
          exact hrun

/-- Printed markup starts with a tag, neither with a byte order mark nor with a declaration. -/
theorem tokens?_chars (hprintable : e.Everywhere Element.IsPrintable) :
    tokens? e.chars = readAll e.chars.length e.chars := by
  obtain ⟨c, s, hchars, hc⟩ : ∃ c s, e.chars = '<' :: c :: s ∧ c ≠ '?' := by
    obtain ⟨htag, -⟩ := Element.everywhere_isPrintable_iff.1 hprintable
    obtain ⟨c, others, hname, hstart⟩ := htag.isName.exists_cons
    obtain ⟨-, -, -, -, hquestion⟩ := ne_of_isNameStart hstart
    obtain ⟨name, attributes, children⟩ := e
    cases children <;> simp only [Element.chars, hname] <;> exact ⟨c, _, rfl, hquestion⟩
  have hmark : Text.dropPrefix? ['\uFEFF'] ('<' :: c :: s) = none := rfl
  have hdeclaration : Text.startsWith "<?xml ".toList ('<' :: c :: s) = false := by
    simp [Text.startsWith, Text.dropPrefix?, Ne.symm hc]
  simp only [hchars, tokens?, hmark, Option.getD_none, hdeclaration, Bool.false_eq_true, if_false,
    Option.bind_eq_bind, Option.bind_some]

/-- The markup of an element that has been read is read back, except for line ends and blanks,
with texts side by side joined. -/
theorem read?_chars (hprintable : e.Everywhere Element.IsPrintable) :
    read? e.chars = some e.joined.reread := by
  have hjoined := Element.everywhere_isJoined e
  have hprintableJoined := Element.everywhere_isPrintable_joined hprintable
  have hreads := Element.reads_chars hprintableJoined hjoined [] [] reads_nil
  have hrun := rebuilds hprintableJoined hjoined .prolog [] [] rfl
  rw [List.append_nil, List.append_nil, Element.chars_joined] at hreads
  rw [List.append_nil] at hrun
  rw [read?, tokens?_chars hprintable, hreads _ (Nat.le_refl _), Option.bind_some, ofTokens?, hrun]
  rfl

end Markup

namespace Element

variable {t : String} {children : List (Content Element)}

theorem joinText_of_head? (h : ∀ content ∈ children.head?, content.text? = none) :
    joinText t children = .text t :: children := by
  unfold joinText
  split
  · cases h _ rfl
  · rfl

theorem text?_head?_rereadChildren (h : ∀ content ∈ children.head?, content.text? = none) :
    ∀ content ∈ (rereadChildren children).head?, content.text? = none := by
  cases children with
  | nil => nofun
  | cons content rest =>
      cases content with
      | element e =>
          rintro content ⟨⟩
          rfl
      | text t => cases h _ rfl

theorem joinedChildren_rereadChildren (hapart : children.IsChain Content.Apart)
    (h : ∀ e, .element e ∈ children → e.reread.joined = e.reread) :
    joinedChildren (rereadChildren children) = rereadChildren children := by
  induction children with
  | nil => rfl
  | cons content rest ih =>
      rw [List.isChain_cons] at hapart
      have hrest := ih hapart.2 fun e he => h e (List.mem_cons_of_mem _ he)
      cases content with
      | element e => rw [rereadChildren, joinedChildren, h e List.mem_cons_self, hrest]
      | text t =>
          rw [rereadChildren, joinedChildren, hrest]
          apply joinText_of_head?
          apply text?_head?_rereadChildren
          exact fun content hcontent => Content.apart_text_iff.1 (hapart.1 content hcontent)

/-- In what comes back no texts are side by side. -/
theorem joined_reread {e : Element} (h : e.Everywhere IsJoined) : e.reread.joined = e.reread := by
  induction e using Element.induct with
  | step e ih =>
      obtain ⟨name, attributes, children⟩ := e
      obtain ⟨hapart, hchildren⟩ := everywhere_iff.1 h
      rw [reread, joined, joinedChildren_rereadChildren hapart]
      intro e he
      have hmem := mem_childElements.2 he
      exact ih e hmem (hchildren e hmem)

/-- Whether an element, apart from the elements in it, holds only blanks that are read back:
neither tabs nor line ends in its attribute values, and in its texts no carriage return except
in front of a character that is written as an entity. -/
structure KeepsBlanks (e : Element) : Prop where
  values : ∀ entry ∈ e.attributes, ∀ c ∈ entry.2.toList, Markup.isRespaced c = false
  texts : ∀ t, .text t ∈ e.children → Markup.KeepsReturns t.toList

theorem rereadValue_eq_iff {value : String} :
    rereadValue value = value ↔ ∀ c ∈ value.toList, Markup.isRespaced c = false := by
  rw [← Markup.attributeValue_map_pieceOf_eq_iff, rereadValue, ← String.toList_inj,
    String.toList_ofList]

theorem rereadText_eq_iff : rereadText t = t ↔ Markup.KeepsReturns t.toList := by
  rw [← Markup.relined_eq_iff, rereadText, ← String.toList_inj, String.toList_ofList]

theorem rereadChildren_eq_iff : rereadChildren children = children ↔
    (∀ t, .text t ∈ children → Markup.KeepsReturns t.toList) ∧
      ∀ e, .element e ∈ children → e.reread = e := by
  induction children with
  | nil => simp [rereadChildren]
  | cons content rest ih =>
      cases content with
      | element e => simp [rereadChildren, ih, and_left_comm]
      | text t => simp [rereadChildren, ih, rereadText_eq_iff, and_assoc]

/-- An element comes back as it was exactly if it holds only blanks that are read back. -/
theorem reread_eq_iff {e : Element} : e.reread = e ↔ e.Everywhere KeepsBlanks := by
  induction e using Element.induct with
  | step e ih =>
      obtain ⟨name, attributes, children⟩ := e
      have hvalues : Fields.mapValues rereadValue attributes = attributes ↔
          ∀ entry ∈ attributes, ∀ c ∈ entry.2.toList, Markup.isRespaced c = false := by
        simp only [Fields.mapValues_eq_iff, rereadValue_eq_iff]
      rw [everywhere_iff, reread, mk.injEq, hvalues, rereadChildren_eq_iff]
      constructor
      · rintro ⟨-, hattributes, htexts, hchildren⟩
        refine ⟨⟨hattributes, htexts⟩, fun child hchild => ?_⟩
        exact (ih child hchild).1 (hchildren child (mem_childElements.1 hchild))
      · rintro ⟨⟨hattributes, htexts⟩, hchildren⟩
        refine ⟨rfl, hattributes, htexts, fun child hchild => ?_⟩
        have hmem : child ∈ childElements ⟨name, attributes, children⟩ :=
          mem_childElements.2 hchild
        exact (ih child hmem).2 (hchildren child hmem)

end Element

/-- The markup of an element that has been read is always read back, and gives the same tree,
but for texts side by side, exactly if the element holds only blanks that are read back. -/
theorem printed_markup_read_back_iff {text : String} {e : Element}
    (h : Value.readMarkup text = .ok e) :
    ∃ again, Value.readMarkup e.markup = .ok again ∧
      (again.joined = e.joined ↔ e.joined.Everywhere Element.KeepsBlanks) := by
  have hread : Markup.read? text.toList = some e := by
    unfold Value.readMarkup at h
    split at h
    · rename_i hread
      cases h
      exact hread
    · cases h
  refine ⟨e.joined.reread, ?_, ?_⟩
  · rw [Value.readMarkup, Element.markup, String.toList_ofList,
      Markup.read?_chars (Markup.isPrintable_of_read? hread)]
  · rw [Element.joined_reread (Element.everywhere_isJoined e), Element.reread_eq_iff]

/-- A carriage return in front of an ampersand and a line feed in a text come back, and texts
around a comment come back as one. -/
theorem return_before_entity_read_back :
    Value.readMarkup "<a b='>'>x&#13;&amp;<!-- -->y\nz</a>" =
        .ok ⟨"a", [("b", ">")], [.text "x\r&", .text "y\nz"]⟩ ∧
      ∃ again, Value.readMarkup
          (Element.markup ⟨"a", [("b", ">")], [.text "x\r&", .text "y\nz"]⟩) = .ok again ∧
        again.joined = ⟨"a", [("b", ">")], [.text "x\r&y\nz"]⟩ := by
  have h : Value.readMarkup "<a b='>'>x&#13;&amp;<!-- -->y\nz</a>" =
      .ok ⟨"a", [("b", ">")], [.text "x\r&", .text "y\nz"]⟩ := rfl
  have htext : Markup.KeepsReturns "x\r&y\nz".toList := Markup.relined_eq_iff.1 rfl
  have hkeeps : Element.KeepsBlanks ⟨"a", [("b", ">")], [.text "x\r&y\nz"]⟩ := by
    refine ⟨by simp [Markup.isRespaced], fun t ht => ?_⟩
    cases List.mem_singleton.1 ht
    exact htext
  obtain ⟨again, hread, hiff⟩ := printed_markup_read_back_iff h
  exact ⟨h, again, hread, hiff.2 ⟨hkeeps, trivial⟩⟩

/-- So printed markup is not always read back as it was: a line feed in an attribute value
comes back as a space, and a carriage return in a text as a line feed. -/
theorem printed_markup_not_always_read_back :
    (Value.readMarkup "<a b=\"&#10;\"/>" = .ok ⟨"a", [("b", "\n")], []⟩ ∧
      Value.readMarkup (Element.markup ⟨"a", [("b", "\n")], []⟩) =
        .ok ⟨"a", [("b", " ")], []⟩) ∧
    (Value.readMarkup "<a>x&#13;y</a>" = .ok ⟨"a", [], [.text "x\ry"]⟩ ∧
      Value.readMarkup (Element.markup ⟨"a", [], [.text "x\ry"]⟩) =
        .ok ⟨"a", [], [.text "x\ny"]⟩) ∧
    ¬ ∀ (text : String) (e : Element), Value.readMarkup text = .ok e →
      ∃ again, Value.readMarkup e.markup = .ok again ∧ again.joined = e.joined := by
  have hvalue : Value.readMarkup (Element.markup ⟨"a", [("b", "\n")], []⟩) =
      .ok ⟨"a", [("b", " ")], []⟩ := rfl
  refine ⟨⟨rfl, hvalue⟩, ⟨rfl, rfl⟩, ?_⟩
  intro hall
  obtain ⟨again, hread, hjoined⟩ := hall "<a b=\"&#10;\"/>" ⟨"a", [("b", "\n")], []⟩ rfl
  rw [hvalue] at hread
  obtain rfl := Except.ok.inj hread
  simp [Element.joined] at hjoined

end DocMatch
