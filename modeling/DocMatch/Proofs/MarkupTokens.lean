import DocMatch.Markup.Token
import DocMatch.Proofs.MarkupPieces
/-!
The tokens of printed markup.  Tags without qualifiers and escaped texts are read back from
their characters, whatever follows them, so the markup of an element is cut into the tokens
of its parts.
-/

namespace DocMatch

namespace Markup

open Element (isEscaped isEscaped_iff escapeChar escape attributesChars)

/-- Whether a document may hold all characters of a text. -/
def IsDocumentText (s : List Char) : Prop :=
  ∀ c ∈ s, isDocumentChar c = true

/-- Whether a text is a name without a qualifier. -/
structure IsName (s : List Char) : Prop where
  start : s.head?.any isNameStart = true
  chars : ∀ c ∈ s, isNameChar c = true

/-- Whether a name in front of a text ends there. -/
def EndsName (rest : List Char) : Prop :=
  ∀ c ∈ rest.head?, isNameChar c = false ∧ c ≠ ':'

/-- The characters that end a start tag. -/
def tagEnd (isEmpty : Bool) : List Char :=
  if isEmpty then ['/', '>'] else ['>']

/-- The attributes of an element as its tag holds them. -/
def rawAttributes (attributes : Fields String) : List (QName × List Char) :=
  attributes.map fun entry => (⟨[], entry.1.toList⟩, escape entry.2)

/-- Whether attributes can stand in a tag: under names, with characters that documents hold. -/
def AttributesPrintable (attributes : Fields String) : Prop :=
  ∀ entry ∈ attributes, IsName entry.1.toList ∧ IsDocumentText entry.2.toList

variable {c : Char} {name raw s rest : List Char} {attributes : Fields String} {token : Token}
  {tokens : List Token}

theorem IsName.exists_cons (h : IsName name) :
    ∃ c others, name = c :: others ∧ isNameStart c = true := by
  cases name with
  | nil => cases h.start
  | cons c others => exact ⟨c, others, rfl, h.start⟩

/-- A name does not start with a blank, nor with anything else that no name starts with. -/
theorem ne_of_isNameStart (h : isNameStart c = true) :
    isSpace c = false ∧ c ≠ '/' ∧ c ≠ '>' ∧ c ≠ '!' ∧ c ≠ '?' := by
  constructor
  · rw [Bool.eq_false_iff]
    intro hspace
    simp only [isSpace, Bool.or_eq_true, beq_iff_eq] at hspace
    rcases hspace with ((rfl | rfl) | rfl) | rfl <;> cases h
  · refine ⟨?_, ?_, ?_, ?_⟩
    all_goals
      rintro rfl
      cases h

theorem endsName_cons_iff : EndsName (c :: s) ↔ isNameChar c = false ∧ c ≠ ':' := by
  simp [EndsName]

theorem readQName_append (hname : IsName name) (hrest : EndsName rest) :
    readQName (name ++ rest) = some (⟨[], name⟩, rest) := by
  have hspan : (name ++ rest).span isNameChar = (name, rest) := by
    apply span_append hname.chars
    exact fun c hc => (hrest c hc).1
  have hparts : QName.ofParts? [] name = some ⟨[], name⟩ := by
    rw [QName.ofParts?, hname.start]
    rfl
  rw [readQName, hspan]
  cases rest with
  | nil => simp only [hparts, Option.map_some]
  | cons c rest =>
      have hcolon := (endsName_cons_iff.1 hrest).2
      simp only [hparts, Option.map_some]
      split
      · rename_i heq
        exact absurd (List.cons.inj heq).1 hcolon
      · rfl

theorem readValue_append {quote : Char}
    (hraw : ∀ c ∈ raw, c ≠ quote ∧ c ≠ '<' ∧ isDocumentChar c = true) (rest : List Char) :
    readValue quote (raw ++ quote :: rest) = some (raw, rest) := by
  induction raw with
  | nil => rw [List.nil_append, readValue, if_pos rfl]
  | cons c raw ih =>
      rw [List.forall_mem_cons] at hraw
      obtain ⟨⟨hquote, hless, hdocument⟩, hraw⟩ := hraw
      have hallowed : ¬ (decide (c = '<') || !isDocumentChar c) = true := by
        simp [hless, hdocument]
      rw [List.cons_append, readValue, if_neg hquote, if_neg hallowed, ih hraw]
      rfl

/-- An escaped text holds characters of documents only, and none that ends it. -/
theorem escape_allowed {t : String} (ht : IsDocumentText t.toList) :
    ∀ c ∈ escape t, c ≠ '"' ∧ c ≠ '<' ∧ c ≠ '>' ∧ isDocumentChar c = true := by
  apply Element.forall_mem_flatMap_escapeChar
  · intro c hc
    rcases isEscaped_iff.1 hc with rfl | rfl | rfl | rfl
    all_goals simp [escapeChar, isDocumentChar]
  · intro c hc hescaped
    refine ⟨?_, ?_, ?_, ht c hc⟩
    all_goals
      rintro rfl
      cases hescaped

theorem readAttribute_append (hname : IsName name)
    (hraw : ∀ c ∈ raw, c ≠ '"' ∧ c ≠ '<' ∧ isDocumentChar c = true) (rest : List Char) :
    readAttribute (name ++ '=' :: '"' :: (raw ++ '"' :: rest)) =
      some ((⟨[], name⟩, raw), rest) := by
  have hends : EndsName ('=' :: '"' :: (raw ++ '"' :: rest)) := endsName_cons_iff.2 (by decide)
  have hequals : skipSpaces ('=' :: '"' :: (raw ++ '"' :: rest)) =
      '=' :: '"' :: (raw ++ '"' :: rest) := rfl
  have hquote : skipSpaces ('"' :: (raw ++ '"' :: rest)) = '"' :: (raw ++ '"' :: rest) := rfl
  simp only [readAttribute, readQName_append hname hends, hequals, hquote,
    readValue_append hraw, Option.bind_eq_bind, Option.bind_some, decide_true, Bool.true_or,
    if_true, Option.pure_def]

/-- An attribute after a blank is read in front of the others. -/
theorem readAttributes_cons {n : Nat} {others : List (QName × List Char)} {isEmpty : Bool}
    (hname : IsName name) (hraw : ∀ c ∈ raw, c ≠ '"' ∧ c ≠ '<' ∧ isDocumentChar c = true)
    (h : readAttributes n s = some (others, isEmpty, rest)) :
    readAttributes (n + 1) (' ' :: (name ++ '=' :: '"' :: (raw ++ '"' :: s))) =
      some ((⟨[], name⟩, raw) :: others, isEmpty, rest) := by
  have hread := readAttribute_append hname hraw s
  obtain ⟨c, name, rfl, hstart⟩ := hname.exists_cons
  obtain ⟨hspace, hslash, hgreater, -⟩ := ne_of_isNameStart hstart
  have hskip : ∀ s, skipSpaces (' ' :: c :: s) = c :: s := by
    intro s
    rw [skipSpaces, List.dropWhile_cons_of_pos rfl]
    exact List.dropWhile_cons_of_neg (by simp [hspace])
  rw [List.cons_append] at hread ⊢
  rw [readAttributes, hskip]
  split
  · rename_i hend
    exact absurd (List.cons.inj hend).1 hslash
  · rename_i hend
    exact absurd (List.cons.inj hend).1 hgreater
  · rw [hread]
    simp only [List.head?_cons, Option.bind_eq_bind, Option.bind_some, h]
    rfl

/-- Attributes and the end of their tag are read back. -/
theorem readAttributes_append (h : AttributesPrintable attributes) (isEmpty : Bool)
    (rest : List Char) (n : Nat) (hn : attributes.length < n) :
    readAttributes n (attributesChars attributes ++ (tagEnd isEmpty ++ rest)) =
      some (rawAttributes attributes, isEmpty, rest) := by
  induction attributes generalizing n with
  | nil =>
      obtain ⟨n, rfl⟩ : ∃ m, n = m + 1 := ⟨n - 1, by omega⟩
      cases isEmpty <;> rfl
  | cons entry others ih =>
      rw [List.length_cons] at hn
      obtain ⟨n, rfl⟩ : ∃ m, n = m + 1 := ⟨n - 1, by omega⟩
      rw [AttributesPrintable, List.forall_mem_cons] at h
      obtain ⟨⟨hname, hvalue⟩, hothers⟩ := h
      have hraw : ∀ c ∈ escape entry.2, c ≠ '"' ∧ c ≠ '<' ∧ isDocumentChar c = true := by
        intro c hc
        obtain ⟨hquote, hless, -, hdocument⟩ := escape_allowed hvalue c hc
        exact ⟨hquote, hless, hdocument⟩
      have hread := readAttributes_cons hname hraw (ih hothers n (by omega))
      simpa [attributesChars, rawAttributes] using hread

theorem length_le_length_attributesChars (attributes : Fields String) :
    attributes.length ≤ (attributesChars attributes).length := by
  induction attributes with
  | nil => exact Nat.le_refl _
  | cons entry others ih =>
      have hcons : attributesChars (entry :: others) =
          attributesChars [entry] ++ attributesChars others := by simp [attributesChars]
      have hentry : 0 < (attributesChars [entry]).length := by simp [attributesChars]
      rw [hcons, List.length_append, List.length_cons]
      omega

theorem endsName_tag (attributes : Fields String) (isEmpty : Bool) (rest : List Char) :
    EndsName (attributesChars attributes ++ (tagEnd isEmpty ++ rest)) := by
  cases attributes with
  | nil => cases isEmpty <;> exact endsName_cons_iff.2 (by decide)
  | cons entry others => exact endsName_cons_iff.2 (by decide)

/-- A start tag is read back. -/
theorem readTag_start (hname : IsName name) (h : AttributesPrintable attributes) (isEmpty : Bool)
    (rest : List Char) :
    readTag (name ++ (attributesChars attributes ++ (tagEnd isEmpty ++ rest))) =
      some (.startTag ⟨[], name⟩ (rawAttributes attributes) isEmpty, rest) := by
  have hread : readStartTag (name ++ (attributesChars attributes ++ (tagEnd isEmpty ++ rest))) =
      some (.startTag ⟨[], name⟩ (rawAttributes attributes) isEmpty, rest) := by
    have hlength := length_le_length_attributesChars attributes
    rw [readStartTag, readQName_append hname (endsName_tag attributes isEmpty rest)]
    simp only [Option.bind_eq_bind, Option.bind_some]
    rw [readAttributes_append h]
    · rfl
    · rw [List.length_append]
      omega
  obtain ⟨c, others, rfl, hstart⟩ := hname.exists_cons
  obtain ⟨-, hslash, -, hexclamation, hquestion⟩ := ne_of_isNameStart hstart
  rw [← hread]
  unfold readTag
  split
  · rename_i heq
    exact absurd (List.cons.inj heq).1 hexclamation
  · rename_i heq
    exact absurd (List.cons.inj heq).1 hquestion
  · rename_i heq
    exact absurd (List.cons.inj heq).1 hslash
  · rfl

/-- An end tag is read back. -/
theorem readTag_end (hname : IsName name) (rest : List Char) :
    readTag ('/' :: (name ++ '>' :: rest)) = some (.endTag ⟨[], name⟩, rest) := by
  have hends : EndsName ('>' :: rest) := endsName_cons_iff.2 (by decide)
  have hskip : skipSpaces ('>' :: rest) = '>' :: rest := rfl
  simp only [readTag, readEndTag, readQName_append hname hends, hskip, Option.bind_eq_bind,
    Option.bind_some]

/-- An escaped text is read back, up to the next tag. -/
theorem readText_escape {t : String} (ht : IsDocumentText t.toList)
    (hrest : ∀ c ∈ rest.head?, c = '<') :
    readText (escape t ++ rest) = some (.text (escape t), rest) := by
  have hallowed := escape_allowed ht
  have hspan : (escape t ++ rest).span (· != '<') = (escape t, rest) := by
    apply span_append
    · intro c hc
      simpa using (hallowed c hc).2.1
    · intro c hc
      simp [hrest c hc]
  have hdocument : (escape t).all isDocumentChar = true := by
    rw [List.all_eq_true]
    exact fun c hc => (hallowed c hc).2.2.2
  have hsection : Text.occursIn "]]>".toList (escape t) = false := by
    rw [Bool.eq_false_iff]
    intro hoccurs
    have hgreater : '>' ∈ escape t := (Text.occursIn_iff.1 hoccurs).subset (by decide)
    exact (hallowed _ hgreater).2.2.1 rfl
  rw [readText, hspan]
  simp only [hdocument, hsection, Bool.not_false, Bool.and_self, if_true]

/-- The tokens of a text, read with any sufficient number of steps. -/
def Reads (s : List Char) (tokens : List Token) : Prop :=
  ∀ n, s.length ≤ n → readAll n s = some tokens

theorem reads_nil : Reads [] [] := by
  intro n _
  cases n <;> rfl

/-- Reading one token and then the others. -/
theorem Reads.cons
    (hread : (if c = '<' then readTag s else readText (c :: s)) = some (token, rest))
    (hlength : rest.length ≤ s.length) (h : Reads rest tokens) :
    Reads (c :: s) (token :: tokens) := by
  intro n hn
  rw [List.length_cons] at hn
  obtain ⟨n, rfl⟩ : ∃ m, n = m + 1 := ⟨n - 1, by omega⟩
  rw [readAll, hread]
  simp only [h n (by omega), Option.map_some]

theorem reads_startTag (hname : IsName name) (hattributes : AttributesPrintable attributes)
    (isEmpty : Bool) (h : Reads rest tokens) :
    Reads ('<' :: (name ++ (attributesChars attributes ++ (tagEnd isEmpty ++ rest))))
      (.startTag ⟨[], name⟩ (rawAttributes attributes) isEmpty :: tokens) := by
  apply Reads.cons _ _ h
  · rw [if_pos rfl, readTag_start hname hattributes]
  · simp only [List.length_append]
    omega

theorem reads_endTag (hname : IsName name) (h : Reads rest tokens) :
    Reads ('<' :: '/' :: (name ++ '>' :: rest)) (.endTag ⟨[], name⟩ :: tokens) := by
  apply Reads.cons _ _ h
  · rw [if_pos rfl, readTag_end hname]
  · simp only [List.length_append, List.length_cons]
    omega

theorem reads_text {t : String} (hne : t.toList ≠ [])
    (ht : IsDocumentText t.toList) (hrest : ∀ c ∈ rest.head?, c = '<')
    (h : Reads rest tokens) : Reads (escape t ++ rest) (.text (escape t) :: tokens) := by
  have hread := readText_escape ht hrest
  have hallowed := escape_allowed ht
  obtain ⟨c, others, heq⟩ : ∃ c others, escape t = c :: others := by
    apply List.exists_cons_of_ne_nil
    rw [escape, ne_eq, List.flatMap_eq_nil_iff]
    intro hempty
    obtain ⟨d, s, hd⟩ := List.exists_cons_of_ne_nil hne
    apply Element.escapeChar_ne_nil d
    apply hempty
    rw [hd]
    exact List.mem_cons_self
  have hless : c ≠ '<' := by
    apply (hallowed c _).2.1
    rw [heq]
    exact List.mem_cons_self
  rw [heq, List.cons_append] at hread ⊢
  apply Reads.cons _ _ h
  · rwa [if_neg hless]
  · rw [List.length_append]
    omega

end Markup

end DocMatch
