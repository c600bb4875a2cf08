import DocMatch.Proofs.Fields
import DocMatch.Proofs.JsonNumbers
import DocMatch.Proofs.JsonTokens
import DocMatch.Proofs.Nodes
import DocMatch.Value.Document
/-!
Values printed as JSON and read back.  The tokens of the printed text rebuild the document,
container by container, and the document means the value it was made of, with the same keys
in the same order.  Numbers that are integers of 64 bits come back as they were.
-/

namespace DocMatch

namespace Json

mutual

/-- The tokens that write a document. -/
def tokens : Json → List Token
  | .array items => .openArray :: itemsTokens items
  | .object members => .openObject :: membersTokens members
  | j => [.scalar j]

/-- The tokens of the items of an array and its end. -/
def itemsTokens : List Json → List Token
  | [] => [.closeArray]
  | [item] => item.tokens ++ [.closeArray]
  | item :: rest => item.tokens ++ .comma :: itemsTokens rest

/-- The tokens of the members of an object and its end. -/
def membersTokens : Fields Json → List Token
  | [] => [.closeObject]
  | [(key, value)] => .scalar (.string key) :: .colon :: value.tokens ++ [.closeObject]
  | (key, value) :: rest =>
      .scalar (.string key) :: .colon :: value.tokens ++ .comma :: membersTokens rest

end

theorem State.run_cons {state after : State} {token : Token} {tokens : List Token}
    (h : state.next token = some after) : state.run (token :: tokens) = after.run tokens := by
  rw [State.run, h]
  rfl

variable {items : List Json} {members : Fields Json} {stack : List Frame}

/-- The first token of a document starts a value, in an array that has just been opened too. -/
theorem run_firstItem (j : Json) (tokens : List Token) :
    (State.firstItem stack).run (j.tokens ++ tokens) =
      (State.value (.array [] :: stack)).run (j.tokens ++ tokens) := by
  cases j <;> rfl

/-- Items that are rebuilt one by one make up their array. -/
theorem run_itemsTokens (hne : items ≠ [])
    (h : ∀ j ∈ items, ∀ frame tokens, (State.value (frame :: stack)).run (j.tokens ++ tokens) =
      (State.done j (frame :: stack)).run tokens) (before : List Json) (tokens : List Token) :
    (State.value (.array before :: stack)).run (itemsTokens items ++ tokens) =
      (State.done (.array (before.reverse ++ items)) stack).run tokens := by
  induction items generalizing before with
  | nil => exact absurd rfl hne
  | cons j rest ih =>
      rw [List.forall_mem_cons] at h
      cases rest with
      | nil =>
          rw [itemsTokens, List.append_assoc, h.1, ← List.reverse_cons]
          exact State.run_cons rfl
      | cons next rest =>
          rw [itemsTokens, List.append_assoc, h.1, List.cons_append]
          · refine (State.run_cons rfl).trans ?_
            rw [ih (List.cons_ne_nil _ _) h.2, List.reverse_cons, List.append_assoc]
            rfl
          · nofun

/-- The first item of an array is read like any other. -/
theorem run_firstItem_itemsTokens (j : Json) (others : List Json) (tokens : List Token) :
    (State.firstItem stack).run (itemsTokens (j :: others) ++ tokens) =
      (State.value (.array [] :: stack)).run (itemsTokens (j :: others) ++ tokens) := by
  cases others with
  | nil => rw [itemsTokens, List.append_assoc, run_firstItem]
  | cons next others =>
      rw [itemsTokens, List.append_assoc, run_firstItem]
      nofun

/-- Members that are rebuilt one by one make up their object, if their keys are distinct. -/
theorem run_membersTokens (hne : members ≠ [])
    (h : ∀ member ∈ members, ∀ frame tokens,
      (State.value (frame :: stack)).run (member.2.tokens ++ tokens) =
        (State.done member.2 (frame :: stack)).run tokens) (before : Fields Json)
    (hdistinct : Fields.Distinct (before ++ members)) (tokens : List Token) :
    (State.key before stack).run (membersTokens members ++ tokens) =
      (State.done (.object (before ++ members)) stack).run tokens := by
  induction members generalizing before with
  | nil => exact absurd rfl hne
  | cons member rest ih =>
      obtain ⟨key, value⟩ := member
      rw [List.forall_mem_cons] at h
      have hnew : Fields.insert key value before = before ++ [(key, value)] :=
        Fields.insert_of_not_mem value hdistinct.not_mem_keys
      cases rest with
      | nil =>
          simp only [membersTokens, List.cons_append, List.append_assoc, List.nil_append]
          refine (State.run_cons rfl).trans ((State.run_cons rfl).trans ?_)
          rw [h.1, ← hnew]
          exact State.run_cons rfl
      | cons next rest =>
          have hrest : Fields.Distinct ((before ++ [(key, value)]) ++ next :: rest) := by
            rwa [List.append_assoc]
          simp only [membersTokens, List.cons_append, List.append_assoc]
          refine (State.run_cons rfl).trans ((State.run_cons rfl).trans ?_)
          rw [h.1]
          refine (State.run_cons rfl).trans ?_
          rw [hnew, ih (List.cons_ne_nil _ _) h.2 _ hrest, List.append_assoc]
          rfl

theorem run_firstKey (hne : members ≠ []) (tokens : List Token) :
    (State.firstKey stack).run (membersTokens members ++ tokens) =
      (State.key [] stack).run (membersTokens members ++ tokens) := by
  obtain ⟨member, rest, rfl⟩ := List.exists_cons_of_ne_nil hne
  cases rest <;> rfl

/-- Items that are rebuilt one by one make up their array, where one more container may be
open. -/
theorem run_array (hroom : stack.length < maxDepth)
    (h : ∀ j ∈ items, ∀ frame tokens, (State.value (frame :: stack)).run (j.tokens ++ tokens) =
      (State.done j (frame :: stack)).run tokens) (tokens : List Token) :
    (State.value stack).run ((array items).tokens ++ tokens) =
      (State.done (.array items) stack).run tokens := by
  have hopen : (State.value stack).next .openArray = some (.firstItem stack) := if_pos hroom
  refine (State.run_cons hopen).trans ?_
  cases items with
  | nil => exact State.run_cons rfl
  | cons j rest =>
      have hrun := run_itemsTokens (List.cons_ne_nil _ _) h [] tokens
      rw [← run_firstItem_itemsTokens] at hrun
      exact hrun

/-- Members that are rebuilt one by one make up their object, where one more container may be
open. -/
theorem run_object (hroom : stack.length < maxDepth)
    (h : ∀ member ∈ members, ∀ frame tokens,
      (State.value (frame :: stack)).run (member.2.tokens ++ tokens) =
        (State.done member.2 (frame :: stack)).run tokens)
    (hdistinct : Fields.Distinct members) (tokens : List Token) :
    (State.value stack).run ((object members).tokens ++ tokens) =
      (State.done (.object members) stack).run tokens := by
  have hopen : (State.value stack).next .openObject = some (.firstKey stack) := if_pos hroom
  refine (State.run_cons hopen).trans ?_
  cases members with
  | nil => exact State.run_cons rfl
  | cons member rest =>
      have hrun := run_membersTokens (List.cons_ne_nil _ _) h [] hdistinct tokens
      rw [← run_firstKey (List.cons_ne_nil _ _)] at hrun
      exact hrun

open Token (Reads EndsValue)

variable {rest : List Char} {tokens : List Token}

/-- Items whose texts are cut into their tokens make up an array whose text is. -/
theorem reads_itemsChars
    (h : ∀ j ∈ items, ∀ rest tokens, EndsValue rest → Reads rest tokens →
      Reads (j.chars ++ rest) (j.tokens ++ tokens)) (hrest : Reads rest tokens) :
    Reads (itemsChars items ++ rest) (itemsTokens items ++ tokens) := by
  have hclose : Reads (']' :: rest) (.closeArray :: tokens) :=
    Reads.cons rfl rfl (Nat.le_refl _) hrest
  induction items with
  | nil => exact hclose
  | cons j others ih =>
      rw [List.forall_mem_cons] at h
      cases others with
      | nil =>
          rw [itemsChars, itemsTokens, List.append_assoc, List.append_assoc]
          exact h.1 _ _ (by simp [EndsValue]) hclose
      | cons next others =>
          have hcomma := Reads.cons (c := ',') rfl rfl (Nat.le_refl _) (ih h.2)
          rw [itemsChars, itemsTokens, List.append_assoc, List.append_assoc]
          · exact h.1 _ _ (by simp [EndsValue]) hcomma
          · nofun
          · nofun

/-- Members whose texts are cut into their tokens make up an object whose text is. -/
theorem reads_membersChars
    (h : ∀ member ∈ members, ∀ rest tokens, EndsValue rest → Reads rest tokens →
      Reads (member.2.chars ++ rest) (member.2.tokens ++ tokens)) (hrest : Reads rest tokens) :
    Reads (membersChars members ++ rest) (membersTokens members ++ tokens) := by
  have hclose : Reads ('}' :: rest) (.closeObject :: tokens) :=
    Reads.cons rfl rfl (Nat.le_refl _) hrest
  have hentry : ∀ (key : String) {s : List Char} {tokens : List Token}, Reads s tokens →
      Reads (quoted key ++ ':' :: s) (.scalar (.string key) :: .colon :: tokens) := by
    intro key s tokens hs
    exact Token.reads_quoted (Reads.cons rfl rfl (Nat.le_refl _) hs) key
  induction members with
  | nil => exact hclose
  | cons member others ih =>
      obtain ⟨key, value⟩ := member
      rw [List.forall_mem_cons] at h
      cases others with
      | nil =>
          have hvalue := h.1 _ _ (by simp [EndsValue]) hclose
          simp only [membersChars, membersTokens, List.append_assoc, List.cons_append,
            List.nil_append]
          exact hentry key hvalue
      | cons next others =>
          have hcomma := Reads.cons (c := ',') rfl rfl (Nat.le_refl _) (ih h.2)
          have hvalue := h.1 _ _ (by simp [EndsValue]) hcomma
          simp only [membersChars, membersTokens, List.append_assoc, List.cons_append]
          exact hentry key hvalue

end Json

namespace Value

mutual

/-- How many sequences and mappings lie inside each other. -/
def levels : Value → Nat
  | .sequence items => levelsOfItems items + 1
  | .mapping entries => levelsOfEntries entries + 1
  | _ => 0

/-- How many levels an item has at most. -/
def levelsOfItems : List Value → Nat
  | [] => 0
  | item :: rest => max item.levels (levelsOfItems rest)

/-- How many levels the value of an entry has at most. -/
def levelsOfEntries : Fields Value → Nat
  | [] => 0
  | (_, v) :: rest => max v.levels (levelsOfEntries rest)

end

/-- The values that a JSON text writes exactly: null, Booleans, texts, integers of 64 bits,
signed or unsigned, and containers. -/
def IsExactInJson : Value → Prop
  | .null | .bool _ | .string _ | .sequence _ | .mapping _ => True
  | .number n => ∃ i, JsonNumber.minInteger ≤ i ∧ i ≤ JsonNumber.maxInteger ∧ n = .ofInt i
  | _ => False

theorem levelsOfItems_le_iff {items : List Value} {n : Nat} :
    levelsOfItems items ≤ n ↔ ∀ v ∈ items, v.levels ≤ n := by
  induction items with
  | nil => simp [levelsOfItems]
  | cons v rest ih => rw [levelsOfItems, Nat.max_le, ih, List.forall_mem_cons]

theorem levelsOfEntries_le_iff {entries : Fields Value} {n : Nat} :
    levelsOfEntries entries ≤ n ↔ ∀ entry ∈ entries, entry.2.levels ≤ n := by
  induction entries with
  | nil => simp [levelsOfEntries]
  | cons entry rest ih => rw [levelsOfEntries, Nat.max_le, ih, List.forall_mem_cons]

variable {v : Value} {i : Int} {rest : List Char} {tokens : List Json.Token}

theorem toJsonItems_eq_map (items : List Value) : toJsonItems items = items.map toJson := by
  induction items with
  | nil => rfl
  | cons v rest ih => rw [toJsonItems, ih, List.map_cons]

theorem toJsonMembers_eq_mapValues (entries : Fields Value) :
    toJsonMembers entries = Fields.mapValues toJson entries := by
  induction entries with
  | nil => rfl
  | cons entry rest ih =>
      rw [toJsonMembers, ih]
      rfl

theorem ofJsonItems_eq_map (items : List Json) : ofJsonItems items = items.map ofJson := by
  induction items with
  | nil => rfl
  | cons j rest ih => rw [ofJsonItems, ih, List.map_cons]

theorem ofJsonMembers_eq_mapValues (members : Fields Json) :
    ofJsonMembers members = Fields.mapValues ofJson members := by
  induction members with
  | nil => rfl
  | cons member rest ih =>
      rw [ofJsonMembers, ih]
      rfl

/-- The numbers of integers of 64 bits are decimals, which JSON has as integers. -/
theorem toJson_ofInt (hlow : JsonNumber.minInteger ≤ i) (hhigh : i ≤ JsonNumber.maxInteger) :
    (Number.ofInt i).toJson = .number (.integer i) := by
  have hbounds : -(twoTo 63 : Int) ≤ i ∧ i ≤ (twoTo 64 : Int) - 1 := ⟨hlow, hhigh⟩
  have hbits : twoTo 63 < twoTo 64 ∧ twoTo 64 < twoTo 96 := by decide
  obtain ⟨d, hd, hcoefficient, hscale⟩ :
      ∃ d, Decimal.ofInt? i = some d ∧ d.coefficient = i ∧ d.scale = 0 := by
    have hsigned : (if decide (i < 0) = true then -(i.natAbs : Int) else i.natAbs) = i := by
      by_cases hnegative : i < 0
      · rw [if_pos (decide_eq_true hnegative)]
        omega
      · rw [if_neg (by simpa using hnegative)]
        omega
    refine ⟨⟨i, 0, by omega, by decide, .inl rfl⟩, ?_, rfl, rfl⟩
    simp only [Decimal.ofInt?, Decimal.ofScaled?, Decimal.stripZeros, hsigned]
    rw [dif_pos ⟨by omega, by decide, .inl trivial⟩]
  obtain ⟨j, -, hj, -, hinteger, -⟩ := d.exists_toJson
  have hkept : j = .integer d.coefficient :=
    hinteger ⟨hscale, by rwa [hcoefficient], by rwa [hcoefficient]⟩
  rw [Number.ofInt, hd, hj, hkept, hcoefficient]

open Json.Token (Reads EndsValue)

/-- The text of a value is cut into the tokens of its JSON form. -/
theorem reads_chars (hv : v.Everywhere IsExactInJson) :
    ∀ (rest : List Char) (tokens : List Json.Token), EndsValue rest → Reads rest tokens →
      Reads (v.toJson.chars ++ rest) (v.toJson.tokens ++ tokens) := by
  induction v using Value.induct with
  | leaf v hleaf =>
      intro rest tokens hrest h
      cases v with
      | null => exact Reads.cons rfl rfl (by simp; omega) h
      | bool b => cases b <;> exact Reads.cons rfl rfl (by simp; omega) h
      | number n =>
          obtain ⟨i, hlow, hhigh, rfl⟩ := hv
          rw [toJson, toJson_ofInt hlow hhigh]
          exact Json.Token.reads_integer hlow hhigh hrest h
      | string s => exact Json.Token.reads_quoted h s
      | bytes data => cases hv
      | foreign typeName text => cases hv
      | _ => cases hleaf
  | sequence items ih =>
      intro rest tokens hrest h
      have hitems : ∀ j ∈ toJsonItems items, ∀ rest tokens, EndsValue rest → Reads rest tokens →
          Reads (j.chars ++ rest) (j.tokens ++ tokens) := by
        rw [toJsonItems_eq_map, List.forall_mem_map]
        exact fun v hmem => ih v hmem (hv.item hmem)
      exact Reads.cons rfl rfl (Nat.le_refl _) (Json.reads_itemsChars hitems h)
  | mapping entries ih =>
      intro rest tokens hrest h
      have hmembers : ∀ member ∈ toJsonMembers entries, ∀ rest tokens, EndsValue rest →
          Reads rest tokens → Reads (member.2.chars ++ rest) (member.2.tokens ++ tokens) := by
        rw [toJsonMembers_eq_mapValues, Fields.mapValues, List.forall_mem_map]
        exact fun entry hmem => ih entry hmem (hv.entry hmem)
      exact Reads.cons rfl rfl (Nat.le_refl _) (Json.reads_membersChars hmembers h)
  | element e => cases hv

/-- The tokens of a value rebuild its JSON form, within the containers that are open. -/
theorem run_tokens (hv : v.WellFormed) : ∀ stack : List Json.Frame,
    stack.length + v.levels ≤ Json.maxDepth → ∀ tokens,
      (Json.State.value stack).run (v.toJson.tokens ++ tokens) =
        (Json.State.done v.toJson stack).run tokens := by
  induction v using Value.induct with
  | leaf v hleaf =>
      intro stack _ tokens
      have hscalar : v.toJson.tokens = [.scalar v.toJson] := by
        cases v with
        | number n =>
            rw [toJson]
            unfold Number.toJson
            split
            · rfl
            · split
              · split <;> rfl
              · rfl
              · rfl
        | null => rfl
        | bool b => rfl
        | string s => rfl
        | bytes data => rfl
        | foreign typeName text => rfl
        | _ => cases hleaf
      rw [hscalar]
      exact Json.State.run_cons rfl
  | sequence items ih =>
      intro stack hlevels tokens
      rw [levels] at hlevels
      have hroom : stack.length < Json.maxDepth := by omega
      rw [wellFormed_sequence_iff] at hv
      have hitems : ∀ j ∈ toJsonItems items, ∀ frame tokens,
          (Json.State.value (frame :: stack)).run (j.tokens ++ tokens) =
            (Json.State.done j (frame :: stack)).run tokens := by
        rw [toJsonItems_eq_map, List.forall_mem_map]
        intro v hmem frame tokens
        have hv' := levelsOfItems_le_iff.1 (Nat.le_refl _) v hmem
        exact ih v hmem (hv v hmem) _ (by rw [List.length_cons]; omega) tokens
      exact Json.run_array hroom hitems tokens
  | mapping entries ih =>
      intro stack hlevels tokens
      rw [levels] at hlevels
      have hroom : stack.length < Json.maxDepth := by omega
      obtain ⟨hdistinct, hentries⟩ := wellFormed_mapping_iff.1 hv
      have hmembers : ∀ member ∈ toJsonMembers entries, ∀ frame tokens,
          (Json.State.value (frame :: stack)).run (member.2.tokens ++ tokens) =
            (Json.State.done member.2 (frame :: stack)).run tokens := by
        rw [toJsonMembers_eq_mapValues, Fields.mapValues, List.forall_mem_map]
        intro entry hmem frame tokens
        have hentry := levelsOfEntries_le_iff.1 (Nat.le_refl _) entry hmem
        exact ih entry hmem (hentries entry hmem) _ (by rw [List.length_cons]; omega) tokens
      have hkeys : Fields.Distinct (toJsonMembers entries) := by
        rwa [toJsonMembers_eq_mapValues, Fields.Distinct, Fields.keys_mapValues]
      exact Json.run_object hroom hmembers hkeys tokens
  | element e =>
      intro stack _ tokens
      exact Json.State.run_cons rfl

/-- The JSON form of a value means the value. -/
theorem ofJson_toJson (hv : v.Everywhere IsExactInJson) : ofJson v.toJson = v := by
  induction v using Value.induct with
  | leaf v hleaf =>
      cases v with
      | number n =>
          obtain ⟨i, hlow, hhigh, rfl⟩ := hv
          rw [toJson, toJson_ofInt hlow hhigh]
          rfl
      | null => rfl
      | bool b => rfl
      | string s => rfl
      | bytes data => cases hv
      | foreign typeName text => cases hv
      | _ => cases hleaf
  | sequence items ih =>
      have hitems : ∀ v ∈ items, (ofJson ∘ toJson) v = v := fun v hmem => ih v hmem (hv.item hmem)
      rw [toJson, ofJson, toJsonItems_eq_map, ofJsonItems_eq_map, List.map_map,
        List.map_congr_left hitems, List.map_id']
  | mapping entries ih =>
      have hentries : Fields.mapValues (ofJson ∘ toJson) entries = entries := by
        rw [Fields.mapValues_eq_iff]
        exact fun entry hmem => ih entry hmem (hv.entry hmem)
      rw [toJson, ofJson, toJsonMembers_eq_mapValues, ofJsonMembers_eq_mapValues,
        Fields.mapValues_mapValues, hentries]
  | element e => cases hv

theorem text_eq (hv : v.Everywhere IsExactInJson) : v.text = v.toJson.text := by
  cases v with
  | bytes data => cases hv
  | element e => cases hv
  | foreign typeName text => cases hv
  | _ => rfl

/-- The text of a value is read as the value. -/
theorem readJson_text (hv : v.Everywhere IsExactInJson) (hkeys : v.WellFormed)
    (hlevels : v.levels ≤ Json.maxDepth) : readJson v.text = .ok v := by
  have hreads := reads_chars hv [] [] nofun Json.Token.reads_nil
  have hrun := run_tokens hkeys [] (by simpa using hlevels) []
  rw [List.append_nil, List.append_nil] at hreads
  rw [List.append_nil] at hrun
  have hread : Json.read? v.toJson.chars = some v.toJson := by
    rw [Json.read?, Json.Token.ofText?, hreads _ (Nat.le_refl _), Option.bind_some,
      Json.ofTokens?, hrun]
    rfl
  rw [readJson, text_eq hv, Json.text, String.toList_ofList, hread]
  simp only [ofJson_toJson hv]

/-- The text of a sequence or mapping starts like a document. -/
theorem readDocument_text (hv : v.Everywhere IsExactInJson) (hcontainer : v.isContainer = true) :
    readDocument v.text = readJson v.text := by
  rw [text_eq hv, readDocument, Json.text, String.toList_ofList]
  cases v with
  | sequence items => rfl
  | mapping entries => rfl
  | element e => cases hv
  | _ => cases hcontainer

end Value

/-- Values that JSON writes exactly, with at most 127 containers inside each other, are read
back from their text as they were, with the keys of every mapping in the same order, and
containers are found to be documents. -/
theorem printed_json_read_back (v : Value) (hv : v.Everywhere Value.IsExactInJson)
    (hkeys : v.WellFormed) (hlevels : v.levels ≤ 127) :
    Value.readJson v.text = .ok v ∧
      (v.isContainer = true → Value.readDocument v.text = .ok v) := by
  have hread := Value.readJson_text hv hkeys hlevels
  refine ⟨hread, fun hcontainer => ?_⟩
  rw [Value.readDocument_text hv hcontainer, hread]

/-- The greatest and the least integer, a text with escapes and an empty mapping inside it. -/
theorem printed_extremes_read_back :
    ∃ v, v = Value.mapping
          [("z", .sequence [.number (.ofInt 18446744073709551615),
            .number (.ofInt (-9223372036854775808)), .null]),
          ("a\"b", .string "tab\t, null \x00 and \u00e9"), ("", .mapping [])] ∧
      Value.readJson v.text = .ok v ∧ Value.readDocument v.text = .ok v := by
  refine ⟨_, rfl, ?_⟩
  have hgreatest : Value.IsExactInJson (.number (.ofInt 18446744073709551615)) :=
    ⟨18446744073709551615, by decide, by decide, rfl⟩
  have hleast : Value.IsExactInJson (.number (.ofInt (-9223372036854775808))) :=
    ⟨-9223372036854775808, by decide, by decide, rfl⟩
  have hread := printed_json_read_back (.mapping
      [("z", .sequence [.number (.ofInt 18446744073709551615),
        .number (.ofInt (-9223372036854775808)), .null]),
      ("a\"b", .string "tab\t, null \x00 and \u00e9"), ("", .mapping [])])
    ⟨trivial, ⟨trivial, hgreatest, hleast, trivial, trivial⟩, trivial, ⟨trivial, trivial⟩, trivial⟩
    ⟨by simp [Fields.Distinct, Fields.keys], ⟨trivial, trivial, trivial, trivial⟩, trivial,
      ⟨List.nodup_nil, trivial⟩, trivial⟩
    (by decide)
  exact ⟨hread.1, hread.2 rfl⟩

end DocMatch
