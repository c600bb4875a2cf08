import DocMatch.Proofs.Fields
import DocMatch.Proofs.HeldDocuments
import DocMatch.Proofs.JsonText
/-!
Lengths of texts.  A text that is read from a JSON document is shorter than the document, and
so is every text in a document that is held in a text: documents held in documents held in
texts come to an end.
-/

namespace DocMatch

namespace Value

mutual

/-- The length of the longest text among the leaves of a value.  Elements are not entered. -/
def longestText : Value → Nat
  | .string s => s.toList.length
  | .sequence items => longestTextOfItems items
  | .mapping entries => longestTextOfEntries entries
  | _ => 0

/-- The length of the longest text in the items. -/
def longestTextOfItems : List Value → Nat
  | [] => 0
  | v :: rest => max v.longestText (longestTextOfItems rest)

/-- The length of the longest text in the entries. -/
def longestTextOfEntries : Fields Value → Nat
  | [] => 0
  | (_, v) :: rest => max v.longestText (longestTextOfEntries rest)

end

theorem longestTextOfItems_le_iff {items : List Value} {n : Nat} :
    longestTextOfItems items ≤ n ↔ ∀ v ∈ items, v.longestText ≤ n := by
  induction items with
  | nil => simp [longestTextOfItems]
  | cons v rest ih => rw [longestTextOfItems, Nat.max_le, ih, List.forall_mem_cons]

theorem longestTextOfEntries_le_iff {entries : Fields Value} {n : Nat} :
    longestTextOfEntries entries ≤ n ↔ ∀ entry ∈ entries, entry.2.longestText ≤ n := by
  induction entries with
  | nil => simp [longestTextOfEntries]
  | cons entry rest ih => rw [longestTextOfEntries, Nat.max_le, ih, List.forall_mem_cons]

end Value

namespace Json.Token

variable {s t rest : List Char}

theorem push_eq_some_iff {c : Char} {read : Option (List Char × List Char)} :
    push c read = some (t, rest) ↔ ∃ s, read = some (s, rest) ∧ c :: s = t := by
  simp [push, Option.map_eq_some_iff]

/-- A string and what follows it are shorter than the text they are read from. -/
theorem length_of_readString {high : Option Nat} (h : readString high s = some (t, rest)) :
    t.length + rest.length < s.length := by
  have hpush : ∀ {c : Char} {high : Option Nat} {others t : List Char},
      (∀ {s}, readString high others = some (s, rest) → s.length + rest.length < others.length) →
      push c (readString high others) = some (t, rest) →
        t.length + rest.length ≤ others.length := by
    intro c high others t ih hread
    obtain ⟨s, hs, rfl⟩ := push_eq_some_iff.1 hread
    have hlength := ih hs
    rw [List.length_cons]
    omega
  fun_induction readString high s generalizing t with
  | case1 | case2 | case3 | case5 | case7 | case10 | case11 | case13 => cases h
  | case4 _ _ _ _ _ _ _ _ _ ih | case8 _ _ _ _ _ _ _ _ _ ih =>
      have hle := hpush ih h
      simp only [List.length_cons]
      omega
  | case6 _ _ _ _ _ _ _ _ ih =>
      have hlt := ih h
      simp only [List.length_cons]
      omega
  | case9 _ _ _ _ _ ih =>
      have hle := hpush ih h
      simp only [List.length_cons]
      omega
  | case12 =>
      cases h
      simp
  | case14 _ _ _ _ _ _ _ _ _ ih =>
      have hle := hpush ih h
      rw [List.length_cons]
      omega

section Numbers

open JsonNumber (readWhole readFraction readExponent readUnsigned readNumber)

theorem length_spanDigits_le (s : List Char) :
    (Scientific.spanDigits s).2.length ≤ s.length := by
  rw [Scientific.spanDigits, List.span_eq_takeWhile_dropWhile]
  exact (List.dropWhile_suffix _).length_le

theorem length_readWhole_le {digits : List Char} (h : readWhole s = some (digits, rest)) :
    rest.length ≤ s.length := by
  unfold readWhole at h
  split at h
  · cases h
    simp
  · have hspan := length_spanDigits_le s
    simp only [Option.ite_none_left_eq_some, Option.some.injEq, Prod.mk.injEq] at h
    rwa [h.2.2] at hspan

theorem length_readFraction_le {digits : Option (List Char)}
    (h : readFraction s = some (digits, rest)) : rest.length ≤ s.length := by
  unfold readFraction at h
  split at h
  · rename_i s
    have hspan := length_spanDigits_le s
    simp only [Option.ite_none_left_eq_some, Option.some.injEq, Prod.mk.injEq] at h
    rw [h.2.2] at hspan
    rw [List.length_cons]
    omega
  · cases h
    exact Nat.le_refl _

theorem length_splitSign_le (s : List Char) : (Scientific.splitSign s).2.length ≤ s.length := by
  unfold Scientific.splitSign
  split <;> simp

theorem length_readExponent_le {exponent : Option Int}
    (h : readExponent s = some (exponent, rest)) : rest.length ≤ s.length := by
  unfold readExponent at h
  split at h
  · cases h
    exact Nat.le_refl _
  · rename_i c s
    split at h
    · have hsign := length_splitSign_le s
      have hspan := length_spanDigits_le (Scientific.splitSign s).2
      simp only [Option.ite_none_left_eq_some, Option.some.injEq, Prod.mk.injEq] at h
      rw [h.2.2] at hspan
      rw [List.length_cons]
      omega
    · cases h
      exact Nat.le_refl _

theorem length_readNumber_le {n : JsonNumber} (h : readNumber s = some (n, rest)) :
    rest.length ≤ s.length := by
  have hunsigned : ∀ {negative : Bool} {s : List Char},
      readUnsigned negative s = some (n, rest) → rest.length ≤ s.length := by
    intro negative s h
    simp only [readUnsigned, Option.bind_eq_bind, Option.bind_eq_some_iff, Option.pure_def,
      Option.some.injEq, Prod.mk.injEq, Prod.exists] at h
    obtain ⟨_, s₁, hwhole, _, s₂, hfraction, _, s₃, hexponent, _, -, -, rfl⟩ := h
    have hle := length_readWhole_le hwhole
    have hle' := length_readFraction_le hfraction
    have hle'' := length_readExponent_le hexponent
    omega
  by_cases hsign : ∃ others, s = '-' :: others
  · obtain ⟨others, rfl⟩ := hsign
    have hle := hunsigned ((JsonNumber.readNumber_minus others).symm.trans h)
    rw [List.length_cons]
    omega
  · refine hunsigned ((JsonNumber.readNumber_of_head_ne ?_).symm.trans h)
    rintro c hc rfl
    obtain ⟨others, rfl⟩ := List.head?_eq_some_iff.1 hc
    exact hsign ⟨others, rfl⟩

end Numbers

/-- Whether no text in what a token writes is longer than a bound. -/
def TextsWithin (n : Nat) : Token → Prop
  | .scalar value => (Value.ofJson value).longestText ≤ n
  | _ => True

theorem TextsWithin.mono {n m : Nat} {token : Token} (h : token.TextsWithin n) (hle : n ≤ m) :
    token.TextsWithin m := by
  unfold TextsWithin at h ⊢
  split
  · exact Nat.le_trans h hle
  · trivial

/-- What follows a token is hardly longer than what follows its first character, and a text in
the token is not longer. -/
theorem readFrom_bounds {c : Char} {token : Token} (h : readFrom c s = some (token, rest)) :
    rest.length ≤ s.length + 1 ∧ token.TextsWithin s.length := by
  have hword : ∀ {word : List Char} {value : Json}, (Value.ofJson value).longestText = 0 →
      (Text.dropPrefix? word s).map (fun rest => (Token.scalar value, rest)) =
        some (token, rest) → rest.length ≤ s.length + 1 ∧ token.TextsWithin s.length := by
    intro word value hvalue h
    obtain ⟨others, hdrop, heq⟩ := Option.map_eq_some_iff.1 h
    cases heq
    rw [Text.dropPrefix?_eq_some_iff.1 hdrop, List.length_append]
    exact ⟨by omega, by simp [TextsWithin, hvalue]⟩
  unfold readFrom at h
  split at h
  iterate 6
    cases h
    exact ⟨Nat.le_succ _, trivial⟩
  · obtain ⟨⟨t, others⟩, hread, heq⟩ := Option.map_eq_some_iff.1 h
    cases heq
    have hlength := length_of_readString hread
    refine ⟨by omega, ?_⟩
    rw [TextsWithin, Value.ofJson, Value.longestText, String.toList_ofList]
    omega
  iterate 3
    exact hword rfl h
  · obtain ⟨⟨n, others⟩, hread, heq⟩ := Option.map_eq_some_iff.1 h
    cases heq
    exact ⟨length_readNumber_le hread, Nat.zero_le _⟩

/-- Every text among the tokens is shorter than the text they are read from. -/
theorem textsWithin_of_readAll {n steps : Nat} {tokens : List Token} (hn : s.length ≤ n + 1)
    (h : readAll steps s = some tokens) : ∀ token ∈ tokens, token.TextsWithin n := by
  fun_induction readAll steps s generalizing tokens with
  | case1 =>
      cases h
      exact nofun
  | case2 => cases h
  | case3 _ _ _ _ ih =>
      rw [List.length_cons] at hn
      exact ih (by omega) h
  | case4 => cases h
  | case5 steps c s _ token rest hread ih =>
      obtain ⟨others, hothers, rfl⟩ := Option.map_eq_some_iff.1 h
      obtain ⟨hrest, hwithin⟩ := readFrom_bounds hread
      rw [List.length_cons] at hn
      rw [List.forall_mem_cons]
      exact ⟨hwithin.mono (by omega), ih (by omega) hothers⟩

end Json.Token

namespace Json

variable {P : Json → Prop}

/-- Whether a property holds of everything a frame has read. -/
def Frame.Holds (P : Json → Prop) : Frame → Prop
  | .array before => ∀ j ∈ before, P j
  | .object before _ => ∀ member ∈ before, P member.2

/-- Whether a property holds of everything that has been read. -/
def State.Holds (P : Json → Prop) : State → Prop
  | .value stack | .firstItem stack | .firstKey stack => ∀ frame ∈ stack, frame.Holds P
  | .key before stack | .colon before _ stack =>
      (∀ member ∈ before, P member.2) ∧ ∀ frame ∈ stack, frame.Holds P
  | .done read stack => P read ∧ ∀ frame ∈ stack, frame.Holds P

/-- Whether a property of all parts of a container is one of the container. -/
structure PassesUp (P : Json → Prop) : Prop where
  array : ∀ items, (∀ j ∈ items, P j) → P (.array items)
  object : ∀ members : Fields Json, (∀ member ∈ members, P member.2) → P (.object members)

theorem forall_insert {before : Fields Json} (h : ∀ member ∈ before, P member.2) {value : Json}
    (hvalue : P value) (key : String) :
    ∀ member ∈ Fields.insert key value before, P member.2 := by
  intro member hmember
  rcases Fields.mem_insert_cases hmember with rfl | hold
  · exact hvalue
  · exact h member hold

variable {state after : State} {stack : List Frame} {token : Token}

theorem holds_of_startValue (hstack : ∀ frame ∈ stack, frame.Holds P)
    (htoken : ∀ value, token = .scalar value → P value)
    (h : startValue stack token = some after) : after.Holds P := by
  unfold startValue at h
  split at h
  · cases h
    exact ⟨htoken _ rfl, hstack⟩
  · obtain ⟨-, heq⟩ := Option.ite_none_right_eq_some.1 h
    cases heq
    exact hstack
  · obtain ⟨-, heq⟩ := Option.ite_none_right_eq_some.1 h
    cases heq
    exact hstack
  · cases h

theorem holds_of_afterValue (hP : PassesUp P) {read : Json} (hread : P read)
    (hstack : ∀ frame ∈ stack, frame.Holds P) (h : afterValue read stack token = some after) :
    after.Holds P := by
  unfold afterValue at h
  split at h
  all_goals try rw [List.forall_mem_cons] at hstack
  · cases h
    exact List.forall_mem_cons.2 ⟨List.forall_mem_cons.2 ⟨hread, hstack.1⟩, hstack.2⟩
  · cases h
    refine ⟨hP.array _ fun j hj => ?_, hstack.2⟩
    rcases List.mem_cons.1 (List.mem_reverse.1 hj) with rfl | hj
    · exact hread
    · exact hstack.1 j hj
  · cases h
    exact ⟨forall_insert hstack.1 hread _, hstack.2⟩
  · cases h
    exact ⟨hP.object _ (forall_insert hstack.1 hread _), hstack.2⟩
  · cases h

/-- What holds of a token and of all that has been read holds after the token too. -/
theorem State.Holds.next (hP : PassesUp P) (hstate : state.Holds P)
    (htoken : ∀ value, token = .scalar value → P value) (h : state.next token = some after) :
    after.Holds P := by
  unfold State.next at h
  split at h
  · exact holds_of_startValue hstate htoken h
  · cases h
    exact ⟨hP.array _ nofun, hstate⟩
  · have hopened : (Frame.array []).Holds P := List.forall_mem_nil _
    exact holds_of_startValue (List.forall_mem_cons.2 ⟨hopened, hstate⟩) htoken h
  · cases h
    exact ⟨hP.object _ nofun, hstate⟩
  · cases h
    exact ⟨nofun, hstate⟩
  · cases h
    exact hstate
  · cases h
    exact List.forall_mem_cons.2 ⟨hstate.1, hstate.2⟩
  · exact holds_of_afterValue hP hstate.1 hstate.2 h
  · cases h

theorem State.Holds.run (hP : PassesUp P) {tokens : List Token}
    (htokens : ∀ token ∈ tokens, ∀ value, token = .scalar value → P value)
    (hstate : state.Holds P) (h : state.run tokens = some after) : after.Holds P := by
  induction tokens generalizing state with
  | nil =>
      cases h
      exact hstate
  | cons token rest ih =>
      rw [List.forall_mem_cons] at htokens
      obtain ⟨middle, hmiddle, hrest⟩ := Option.bind_eq_some_iff.1 h
      exact ih htokens.2 (hstate.next hP htokens.1 hmiddle) hrest

/-- What holds of all scalar tokens of a text, and passes up to containers, holds of the
document that the text writes. -/
theorem holds_of_read? (hP : PassesUp P) {s : List Char} {j : Json} (h : read? s = some j)
    (htokens : ∀ tokens, Token.ofText? s = some tokens →
      ∀ token ∈ tokens, ∀ value, token = .scalar value → P value) : P j := by
  obtain ⟨tokens, hread, hwrites⟩ := Option.bind_eq_some_iff.1 h
  unfold ofTokens? at hwrites
  split at hwrites
  · rename_i hrun
    cases hwrites
    have hstart : (State.value []).Holds P := List.forall_mem_nil _
    exact (hstart.run hP (htokens tokens hread) hrun).1
  · cases hwrites

end Json

namespace Value

theorem longestText_passesUp (n : Nat) :
    Json.PassesUp fun j => (ofJson j).longestText ≤ n where
  array items h := by
    rw [ofJson, longestText, longestTextOfItems_le_iff, ofJsonItems_eq_map, List.forall_mem_map]
    exact h
  object members h := by
    rw [ofJson, longestText, longestTextOfEntries_le_iff, ofJsonMembers_eq_mapValues,
      Fields.mapValues, List.forall_mem_map]
    exact h

/-- The texts in a JSON document are shorter than the text that writes it. -/
theorem longestText_lt_of_readJson {s : List Char} {v : Value} (hs : s ≠ [])
    (h : readJson (String.ofList s) = .ok v) : v.longestText < s.length := by
  rw [readJson, String.toList_ofList] at h
  split at h
  · rename_i j hj
    cases h
    have hpos : 0 < s.length := List.length_pos_of_ne_nil hs
    have hle : (ofJson j).longestText ≤ s.length - 1 := by
      apply Json.holds_of_read? (longestText_passesUp _) hj
      rintro tokens htokens _ htoken value rfl
      exact Json.Token.textsWithin_of_readAll (by omega) htokens _ htoken
    omega
  · cases h

/-- The texts in a document are shorter than a text that holds the document. -/
theorem longestText_lt_of_readDocument {text : String} {v : Value}
    (h : readDocument text = .ok v) : v.longestText < text.toList.length := by
  obtain ⟨-, c, rest, hbody, -⟩ := starts_of_readDocument h
  have hlength := Text.length_trimLeft_le text.toList
  have hne : Text.trimLeft text.toList ≠ [] := by simp [hbody]
  have hpos := List.length_pos_of_ne_nil hne
  apply Nat.lt_of_lt_of_le _ hlength
  unfold readDocument at h
  simp only at h
  split at h
  · exact longestText_lt_of_readJson hne h
  · exact longestText_lt_of_readJson hne h
  · obtain ⟨e, -, rfl⟩ := map_eq_ok_iff.1 h
    exact hpos
  · cases h

end Value

end DocMatch
