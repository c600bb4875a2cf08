import DocMatch.Proofs.Walk
/-!
Documents held in texts.  A text that holds a document is neither escaped nor a marker, and
what it holds is a container.  So it makes no difference whether a container is given as such
or as a text that holds it, on either side of a comparison and at any depth.
-/

namespace DocMatch

namespace Json

/-- Whether a document that is read has been opened by a brace or a bracket. -/
def State.InContainer : State → Prop
  | .value stack => stack ≠ []
  | .done read [] => (Value.ofJson read).isContainer = true
  | _ => True

namespace State

variable {state after : State} {token : Token} {stack : List Frame}

theorem inContainer_done {read : Json} (h : stack ≠ []) : (State.done read stack).InContainer := by
  cases stack with
  | nil => exact absurd rfl h
  | cons frame stack => trivial

theorem inContainer_of_startValue (hstack : stack ≠ []) (h : startValue stack token = some after) :
    after.InContainer := by
  cases token with
  | scalar value =>
      cases h
      exact inContainer_done hstack
  | openArray =>
      obtain ⟨-, heq⟩ := Option.ite_none_right_eq_some.1 h
      cases heq
      trivial
  | openObject =>
      obtain ⟨-, heq⟩ := Option.ite_none_right_eq_some.1 h
      cases heq
      trivial
  | _ => cases h

theorem inContainer_of_afterValue {read : Json} (h : afterValue read stack token = some after) :
    after.InContainer := by
  unfold afterValue at h
  split at h <;> cases h
  · exact List.cons_ne_nil _ _
  · rename_i stack
    cases stack <;> trivial
  · trivial
  · rename_i stack
    cases stack <;> trivial

/-- Once a container has been opened, what is finished in the end is a container. -/
theorem InContainer.next (hin : state.InContainer) (h : state.next token = some after) :
    after.InContainer := by
  unfold State.next at h
  split at h
  · exact inContainer_of_startValue hin h
  · rename_i stack
    cases h
    cases stack <;> trivial
  · exact inContainer_of_startValue (List.cons_ne_nil _ _) h
  · rename_i stack
    cases h
    cases stack <;> trivial
  · cases h
    trivial
  · cases h
    trivial
  · cases h
    exact List.cons_ne_nil _ _
  · exact inContainer_of_afterValue h
  · cases h

theorem InContainer.run {tokens : List Token} (hin : state.InContainer)
    (h : state.run tokens = some after) : after.InContainer := by
  induction tokens generalizing state with
  | nil =>
      cases h
      exact hin
  | cons token rest ih =>
      obtain ⟨middle, hmiddle, hrest⟩ := Option.bind_eq_some_iff.1 h
      exact ih (hin.next hmiddle) hrest

end State

/-- A text that starts with a brace or a bracket writes a container. -/
theorem isContainer_of_read? {c : Char} {rest : List Char} {j : Json} (hc : c = '{' ∨ c = '[')
    (h : read? (c :: rest) = some j) : (Value.ofJson j).isContainer = true := by
  obtain ⟨tokens, htokens, hread⟩ := Option.bind_eq_some_iff.1 h
  have hfirst : ∃ token state, Token.readFrom c rest = some (token, rest) ∧
      State.next (.value []) token = some state ∧ state.InContainer := by
    rcases hc with rfl | rfl
    · exact ⟨.openObject, .firstKey [], rfl, rfl, trivial⟩
    · exact ⟨.openArray, .firstItem [], rfl, rfl, trivial⟩
  obtain ⟨token, state, hfrom, hnext, hin⟩ := hfirst
  have hspace : Token.isSpace c = false := by
    rcases hc with rfl | rfl <;> rfl
  rw [Token.ofText?, List.length_cons, Token.readAll, hspace, hfrom] at htokens
  obtain ⟨others, -, rfl⟩ := Option.map_eq_some_iff.1 htokens
  rw [ofTokens?, State.run, hnext] at hread
  split at hread
  · rename_i hrun
    cases hread
    exact hin.run hrun
  · cases hread

end Json

namespace Value

variable {text : String} {v : Value}

/-- A text that holds a document starts like one, and holds a container. -/
theorem starts_of_readDocument (h : readDocument text = .ok v) :
    v.isContainer = true ∧ ∃ c rest, Text.trimLeft text.toList = c :: rest ∧
      (c = '{' ∨ c = '[' ∨ c = '<') := by
  have hjson : ∀ c rest, (c = '{' ∨ c = '[') →
      readJson (String.ofList (c :: rest)) = .ok v → v.isContainer = true := by
    intro c rest hc hread
    rw [readJson, String.toList_ofList] at hread
    split at hread
    · rename_i hj
      cases hread
      exact Json.isContainer_of_read? hc hj
    · cases hread
  unfold readDocument at h
  simp only at h
  split at h
  · rename_i rest hbody
    exact ⟨hjson _ _ (Or.inl rfl) (hbody ▸ h), _, _, hbody, Or.inl rfl⟩
  · rename_i rest hbody
    exact ⟨hjson _ _ (Or.inr rfl) (hbody ▸ h), _, _, hbody, Or.inr (Or.inl rfl)⟩
  · rename_i rest hbody
    obtain ⟨e, -, rfl⟩ := map_eq_ok_iff.1 h
    exact ⟨rfl, _, _, hbody, Or.inr (Or.inr rfl)⟩
  · cases h

theorem isContainer_of_readDocument (h : readDocument text = .ok v) : v.isContainer = true :=
  (starts_of_readDocument h).1

theorem looksLikeDocument_of_readDocument (h : readDocument text = .ok v) :
    looksLikeDocument text = true := by
  obtain ⟨-, c, rest, hbody, hc⟩ := starts_of_readDocument h
  rw [looksLikeDocument, hbody]
  rcases hc with rfl | rfl | rfl <;> rfl

/-- The first character of a text that holds a document is blank or opens the document. -/
theorem head_of_readDocument (h : readDocument text = .ok v) {c : Char} {rest : List Char}
    (htext : text.toList = c :: rest) :
    Text.isBlank c = true ∨ c = '{' ∨ c = '[' ∨ c = '<' := by
  obtain ⟨-, d, others, hbody, hd⟩ := starts_of_readDocument h
  rw [htext, Text.trimLeft, List.dropWhile_cons] at hbody
  split at hbody
  · exact Or.inl ‹_›
  · cases hbody
    exact Or.inr hd

end Value

namespace Pattern

variable {registry : Registry} {settings : Settings} {text : String} {v : Value}

theorem unescaped?_of_readDocument (h : Value.readDocument text = .ok v) :
    unescaped? text = none := by
  unfold unescaped?
  split
  · rename_i htext
    rcases Value.head_of_readDocument h htext with hblank | heq | heq | heq
    · cases hblank
    all_goals cases heq
  · rfl

theorem read_of_readDocument (h : Value.readDocument text = .ok v) :
    Marker.read registry text = .ok none := by
  have hshape : Marker.readShape text.toList = none := by
    have hhead : ∀ rest, text.toList ≠ '#' :: rest := by
      intro rest htext
      rcases Value.head_of_readDocument h htext with hblank | heq | heq | heq
      · cases hblank
      all_goals cases heq
    rw [Marker.readShape]
    · exact fun rest => hhead _
    · exact hhead
  rw [Marker.read, Marker.readLevels]
  simp only [hshape]

theorem document?_of_readDocument (hparse : settings.parseEmbeddedDocuments = true)
    (h : Value.readDocument text = .ok v) : document? settings text = some v := by
  rw [document?, hparse, Value.looksLikeDocument_of_readDocument h, h]
  rfl

/-- A text that holds a document means that document. -/
theorem readText_of_readDocument (hparse : settings.parseEmbeddedDocuments = true)
    (h : Value.readDocument text = .ok v) :
    readText registry settings text = .ok (.document v) := by
  rw [readText, unescaped?_of_readDocument h, read_of_readDocument h]
  simp only [document?_of_readDocument hparse h]

end Pattern

namespace Value

/-- Whether one value writes another: containers in it, at any depth, may be held in texts,
and so may containers in the documents that these texts hold. -/
inductive Writes : Value → Value → Prop
  | same (v : Value) : Writes v v
  | text {s : String} {document v : Value} (read : readDocument s = .ok document)
      (parts : Writes document v) : Writes (.string s) v
  | sequence {items others : List Value} (length_eq : items.length = others.length)
      (parts : ∀ pair ∈ items.zip others, Writes pair.1 pair.2) :
      Writes (.sequence items) (.sequence others)
  | mapping {entries others : Fields Value} (keys_eq : entries.keys = others.keys)
      (parts : ∀ pair ∈ entries.zip others, Writes pair.1.2 pair.2.2) :
      Writes (.mapping entries) (.mapping others)

theorem string?_of_isContainer {v : Value} (h : v.isContainer = true) : v.string? = none := by
  cases v with
  | string s => cases h
  | _ => rfl

theorem unfolded_of_isContainer {settings : Settings} {v : Value} (h : v.isContainer = true) :
    v.unfolded settings = v := by
  cases v with
  | string s => cases h
  | _ => rfl

end Value

namespace Pattern

section Parts

variable {α β : Type} {f : α → Except MatchError β}

theorem compileList_congr {values others : List α} (hlength : values.length = others.length)
    (h : ∀ pair ∈ values.zip others, f pair.1 = f pair.2) :
    compileList f values = compileList f others := by
  induction values generalizing others with
  | nil => rw [List.length_eq_zero_iff.1 hlength.symm]
  | cons v rest ih =>
      cases others with
      | nil => cases hlength
      | cons w others =>
          rw [List.zip_cons_cons, List.forall_mem_cons] at h
          rw [compileList, compileList, ih (Nat.succ.inj hlength) h.2, h.1]

theorem compileFields_congr {fields others : Fields α} (hkeys : fields.keys = others.keys)
    (h : ∀ pair ∈ fields.zip others, f pair.1.2 = f pair.2.2) :
    compileFields f fields = compileFields f others := by
  induction fields generalizing others with
  | nil => rw [List.map_eq_nil_iff.1 hkeys.symm]
  | cons entry rest ih =>
      cases others with
      | nil => cases hkeys
      | cons other others =>
          rw [List.zip_cons_cons, List.forall_mem_cons] at h
          obtain ⟨hkey, hrest⟩ := List.cons.inj hkeys
          rw [compileFields, compileFields, ih hrest h.2, h.1, hkey]

end Parts

variable {registry : Registry} {settings : Settings}

/-- A text compiles like the document it holds, at the same level. -/
theorem compileWithin_of_readDocument (hparse : settings.parseEmbeddedDocuments = true)
    {text : String} {v : Value} (h : Value.readDocument text = .ok v) (room : Nat) :
    compileWithin registry settings room (.string text) =
      compileWithin registry settings room v := by
  cases room with
  | zero => rfl
  | succ room =>
      have hv := Value.string?_of_isContainer (Value.isContainer_of_readDocument h)
      rw [compileWithin_of_not_string hv, compileWithin, readText_of_readDocument hparse h]
      rfl

/-- Whatever writes a value compiles like the value. -/
theorem compileWithin_of_writes (hparse : settings.parseEmbeddedDocuments = true) {v w : Value}
    (h : v.Writes w) :
    ∀ room, compileWithin registry settings room v = compileWithin registry settings room w := by
  induction h with
  | same v => exact fun _ => rfl
  | text read _ ih =>
      intro room
      rw [compileWithin_of_readDocument hparse read, ih room]
  | sequence length_eq _ ih =>
      intro room
      cases room with
      | zero => rfl
      | succ room =>
          rw [compileWithin_of_not_string rfl, compileWithin_of_not_string rfl, compileParts,
            compileParts, compileList_congr length_eq fun pair hpair => ih pair hpair room]
  | mapping keys_eq _ ih =>
      intro room
      cases room with
      | zero => rfl
      | succ room =>
          rw [compileWithin_of_not_string rfl, compileWithin_of_not_string rfl, compileParts,
            compileParts, compileFields_congr keys_eq fun pair hpair => ih pair hpair room]

theorem isContainer_of_compileWithin {room : Nat} {v : Value} {p : Pattern}
    (hv : v.isContainer = true) (h : compileWithin registry settings room v = .ok p) :
    p.isContainer = true := by
  cases room with
  | zero => cases h
  | succ room =>
      rw [compileWithin_of_not_string (Value.string?_of_isContainer hv)] at h
      cases v with
      | sequence items =>
          obtain ⟨_, -, rfl⟩ := map_eq_ok_iff.1 h
          rfl
      | mapping entries =>
          obtain ⟨_, -, rfl⟩ := map_eq_ok_iff.1 h
          rfl
      | element e =>
          obtain ⟨_, -, rfl⟩ := map_eq_ok_iff.1 h
          rfl
      | _ => cases hv

/-- Where a container is expected, a text is compared as the document it holds. -/
theorem failures_of_readDocument (hparse : settings.parseEmbeddedDocuments = true) {p : Pattern}
    (hp : p.isContainer = true) {text : String} {v : Value}
    (h : Value.readDocument text = .ok v) (mode : Mode) :
    p.failures settings mode (.string text) = p.failures settings mode v := by
  have hunfolded : (Value.string text).unfolded settings = v.unfolded settings := by
    rw [Value.unfolded_of_isContainer (Value.isContainer_of_readDocument h), Value.unfolded,
      document?_of_readDocument hparse h]
    rfl
  cases p with
  | leaf l => cases hp
  | _ => simp only [failures, hunfolded]

end Pattern

namespace Matcher

variable {m : Matcher} {p : Pattern}

/-- The reasons of a judgement do not tell what the actual value was. -/
theorem map_reason_judge (mode : Mode) (place : Path) (actual other : Option Value)
    (expected : Value) (failures : List Failure) :
    (judge mode place actual expected failures).map Failure.reason =
      (judge mode place other expected failures).map Failure.reason := by
  unfold judge
  cases mode.isNegated <;> cases failures <;> rfl

theorem reasons_of_readDocument (hparse : m.settings.parseEmbeddedDocuments = true)
    (hp : p.isContainer = true) {text : String} {v : Value}
    (h : Value.readDocument text = .ok v) (mode : Mode) :
    (m.compareWith (.string text) p mode).reasons = (m.compareWith v p mode).reasons := by
  rw [compareWith, compareWith, Comparison.reasons, Comparison.reasons, failures_eq_judge,
    failures_eq_judge, Pattern.failures_of_readDocument hparse hp h]
  exact map_reason_judge ..

end Matcher

/-- Documents held in texts are transparent.  A container may be given as a text anywhere in
an expected value without any effect on what this compiles to, and two documents are compared
with the same reasons whether they are given as values, as texts or one as either. -/
theorem held_documents_transparent (m : Matcher)
    (hparse : m.settings.parseEmbeddedDocuments = true) :
    (∀ v w : Value, v.Writes w → m.compile v = m.compile w) ∧
    (∀ (a e : String) (actual expected : Value), Value.readDocument a = .ok actual →
      Value.readDocument e = .ok expected → ∀ mode : Mode,
        ∀ x ∈ [Value.string a, actual], ∀ y ∈ [Value.string e, expected],
          (m.compare x y mode).map Comparison.reasons =
            (m.compareDocuments a e mode).map Comparison.reasons) := by
  have hcompile : ∀ v w : Value, v.Writes w → m.compile v = m.compile w :=
    fun v w h => Pattern.compileWithin_of_writes hparse h _
  refine ⟨hcompile, ?_⟩
  intro a e actual expected ha he mode x hx y hy
  have hy' : m.compile y = m.compile expected := by
    rcases List.mem_pair.1 hy with rfl | rfl
    · exact hcompile _ _ (.text he (.same _))
    · rfl
  have hdocuments : m.compareDocuments a e mode = m.compare actual expected mode := by
    rw [Matcher.compareDocuments, ha, he]
    rfl
  rw [hdocuments, Matcher.compare, Matcher.compare, hy']
  cases hp : m.compile expected with
  | error error => rfl
  | ok p =>
      have hcontainer :=
        Pattern.isContainer_of_compileWithin (Value.isContainer_of_readDocument he) hp
      rcases List.mem_pair.1 hx with rfl | rfl
      · exact congrArg Except.ok (Matcher.reasons_of_readDocument hparse hcontainer ha mode)
      · rfl

/-- A sequence in a text in a text is expected like one given as such, and a text is found
equal to the document it holds. -/
theorem text_in_text_is_transparent :
    Matcher.initial.settings.parseEmbeddedDocuments = true ∧
      Matcher.initial.compile (.mapping [("k", .string "[\"[]\"]")]) =
        Matcher.initial.compile (.mapping [("k", .sequence [.sequence []])]) ∧
      (Matcher.initial.compare (.string "[]") (.sequence []) .notEquals).map Comparison.reasons =
        .ok ["$: is equal"] := by
  obtain ⟨hcompile, hreasons⟩ := held_documents_transparent Matcher.initial rfl
  have houter : Value.readDocument "[\"[]\"]" = .ok (.sequence [.string "[]"]) := rfl
  have hinner : Value.readDocument "[]" = .ok (.sequence []) := rfl
  refine ⟨rfl, hcompile _ _ (.mapping rfl ?_), ?_⟩
  · simp only [List.zip_cons_cons, List.zip_nil_right, List.forall_mem_singleton]
    refine .text houter (.sequence rfl ?_)
    simp only [List.zip_cons_cons, List.zip_nil_right, List.forall_mem_singleton]
    exact .text hinner (.same _)
  · exact hreasons _ _ _ _ hinner hinner .notEquals _ (by simp) _ (by simp)

end DocMatch
