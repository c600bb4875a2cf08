import DocMatch.Path.Reader
import DocMatch.Proofs.Scanning
/-!
The spellings of paths.  A path may be written in several ways, and reading gives the path
back from each of them.  Conversely whatever is read is a spelling of the result, once the
liberties are counted in that brackets around any text name the place after the last item
and that a bracket which nothing closes belongs to the bare key before it.
-/

namespace DocMatch

namespace Path

/-- The spellings of a segment. -/
inductive Spells : Segment → List Char → Prop
  | bare {key : List Char} (nonempty : key ≠ []) (noPoint : '.' ∉ key) (noBracket : '[' ∉ key) :
      Spells (.key (String.ofList key)) ('.' :: key)
  | quoted {key : List Char} {quote : Char} (isQuote : quote = '\'' ∨ quote = '"')
      (noQuote : quote ∉ key) :
      Spells (.key (String.ofList key)) ('[' :: quote :: key ++ [quote, ']'])
  | index {digits : List Char} (nonempty : digits ≠ [])
      (decimal : ∀ c ∈ digits, c.isDigit = true)
      (small : Scientific.digitsValue digits < twoTo 64) :
      Spells (.index (Scientific.digitsValue digits)) ('[' :: digits ++ [']'])
  | append : Spells .append ['[', ']']

/-- The texts that are read as a segment in front of `rest`. -/
inductive LooselySpells (rest : List Char) : Segment → List Char → Prop
  | strict {segment : Segment} {s : List Char} (spells : Spells segment s) :
      LooselySpells rest segment s
  | anyText {text : List Char} (nonempty : text ≠ []) (noClosing : ']' ∉ text) :
      LooselySpells rest .append ('[' :: text ++ [']'])
  | unclosed {key tail : List Char} (nonempty : key ≠ []) (noPoint : '.' ∉ key)
      (noBracket : '[' ∉ key) (noPointAfter : '.' ∉ tail) (noClosing : ']' ∉ tail ++ rest)
      (upToPoint : ∀ c ∈ rest.head?, c = '.') :
      LooselySpells rest (.key (String.ofList (key ++ '[' :: tail))) ('.' :: key ++ '[' :: tail)

/-- The spellings of segments one after another; `spells` says how one segment is written
in front of a text. -/
inductive AllSpelled (spells : List Char → Segment → List Char → Prop) : Path → List Char → Prop
  | nil : AllSpelled spells [] []
  | cons {segment : Segment} {p : Path} {s rest : List Char} (first : spells rest segment s)
      (others : AllSpelled spells p rest) : AllSpelled spells (segment :: p) (s ++ rest)

/-- The spellings of a path: a `$` may stand in front of its segments, and without one the
point of a bare key may be left out at the start, unless the key starts with a `$`. -/
inductive PathSpelled (spells : List Char → Segment → List Char → Prop) :
    Path → List Char → Prop
  | rooted {p : Path} {s : List Char} (segments : AllSpelled spells p s) :
      PathSpelled spells p ('$' :: s)
  | unrooted {p : Path} {s : List Char} (segments : AllSpelled spells p s) :
      PathSpelled spells p s
  | withoutPoint {p : Path} {s : List Char} (segments : AllSpelled spells p ('.' :: s))
      (noDollar : ∀ c ∈ s.head?, c ≠ '$') : PathSpelled spells p s

variable {segment : Segment} {p : Path} {key s rest : List Char}

theorem isBareChar_eq_true_iff {c : Char} : isBareChar c = true ↔ c ≠ '.' ∧ c ≠ '[' := by
  simp [isBareChar]

/-- Whether a text after a bare key does not go on with the key. -/
def EndsBareKey (rest : List Char) : Prop :=
  ∀ c ∈ rest.head?, c = '.' ∨ (c = '[' ∧ ']' ∈ rest)

theorem readBareKey_append (hne : key ≠ []) (hpoint : '.' ∉ key) (hbracket : '[' ∉ key)
    (hrest : EndsBareKey rest) : readBareKey (key ++ rest) = some (key, rest) := by
  have hspan : (key ++ rest).span isBareChar = (key, rest) := by
    apply span_append
    · intro c hc
      rw [isBareChar_eq_true_iff]
      exact ⟨fun h => hpoint (h ▸ hc), fun h => hbracket (h ▸ hc)⟩
    · intro c hc
      rcases hrest c hc with rfl | ⟨rfl, -⟩ <;> rfl
  have hclosed : (rest.head? == some '[' && !rest.contains ']') = false := by
    rw [Bool.and_eq_false_imp]
    intro hhead
    rcases hrest '[' (beq_iff_eq.1 hhead) with h | ⟨-, hmem⟩
    · cases h
    · simpa using hmem
  have hname : key.isEmpty = false := List.isEmpty_eq_false_iff.2 hne
  rw [readBareKey, hspan]
  simp only [hname, hclosed, Bool.false_eq_true, if_false]

theorem readQuotedKey_append {quote : Char} (hkey : quote ∉ key) :
    readQuotedKey quote (key ++ quote :: ']' :: rest) = some (key, rest) := by
  have hspan : (key ++ quote :: ']' :: rest).span (· != quote) = (key, quote :: ']' :: rest) := by
    apply span_append
    · intro c hc
      simp only [bne_iff_ne]
      exact fun h => hkey (h ▸ hc)
    · simp
  rw [readQuotedKey, hspan]
  rfl

theorem readIndex_append {digits : List Char} (hne : digits ≠ [])
    (hdigits : ∀ c ∈ digits, c.isDigit = true) :
    readIndex (digits ++ ']' :: rest) = some (ofDigits digits, rest) := by
  have hspan : Scientific.spanDigits (digits ++ ']' :: rest) = (digits, ']' :: rest) :=
    span_append hdigits (by simp)
  obtain ⟨d, digits, rfl⟩ := List.exists_cons_of_ne_nil hne
  rw [readIndex, hspan]
  rfl

/-- Digits in brackets are read as an index, or as an append if they are no index. -/
theorem readSegment_digits {digits : List Char} (hne : digits ≠ [])
    (hdigits : ∀ c ∈ digits, c.isDigit = true) :
    readSegment ('[' :: digits ++ ']' :: rest) = some (ofDigits digits, rest) := by
  have hread : readIndex (digits ++ ']' :: rest) = some (ofDigits digits, rest) :=
    readIndex_append hne hdigits
  obtain ⟨d, digits, rfl⟩ := List.exists_cons_of_ne_nil hne
  have hdigit := hdigits d List.mem_cons_self
  have hsingle : d ≠ '\'' := by
    rintro rfl
    cases hdigit
  have hdouble : d ≠ '"' := by
    rintro rfl
    cases hdigit
  simp only [List.cons_append] at hread ⊢
  simp [readSegment, readBracket, hsingle, hdouble, hread]

/-- A spelled segment is read from the start of a text. -/
theorem readSegment_append (h : Spells segment s) (hrest : EndsBareKey rest) :
    readSegment (s ++ rest) = some (segment, rest) := by
  cases h with
  | bare nonempty noPoint noBracket =>
      rw [List.cons_append, readSegment, readBareKey_append nonempty noPoint noBracket hrest]
      rfl
  | @quoted key quote isQuote noQuote =>
      have hread : readQuotedKey quote (key ++ quote :: ']' :: rest) = some (key, rest) :=
        readQuotedKey_append noQuote
      rcases isQuote with rfl | rfl <;> simp [readSegment, readBracket, hread]
  | @index digits nonempty decimal small =>
      have hread : readSegment ('[' :: digits ++ ']' :: rest) = some (ofDigits digits, rest) :=
        readSegment_digits nonempty decimal
      rw [ofDigits, indexBound, if_pos small] at hread
      simpa using hread
  | append => simp [readSegment, readBracket, readIndex, readAppend, Scientific.spanDigits]

theorem Spells.head (h : Spells segment s) :
    ∃ c after, s = c :: after ∧ (c = '.' ∨ (c = '[' ∧ ']' ∈ after)) := by
  cases h with
  | bare => exact ⟨_, _, rfl, .inl rfl⟩
  | quoted => exact ⟨_, _, rfl, .inr ⟨rfl, by simp⟩⟩
  | index => exact ⟨_, _, rfl, .inr ⟨rfl, by simp⟩⟩
  | append => exact ⟨_, _, rfl, .inr ⟨rfl, by simp⟩⟩

theorem AllSpelled.endsBareKey (h : AllSpelled (fun _ => Spells) p s) : EndsBareKey s := by
  cases h with
  | nil => simp [EndsBareKey]
  | cons first others =>
      obtain ⟨c, after, rfl, hc⟩ := first.head
      intro d hd
      cases hd
      rcases hc with rfl | ⟨rfl, hmem⟩
      · exact .inl rfl
      · exact .inr ⟨rfl, by simp [hmem]⟩

/-- Spelled segments are read back, one step for each. -/
theorem readSegments_of_spelled (h : AllSpelled (fun _ => Spells) p s) :
    ∀ n, s.length ≤ n → readSegments n s = (p, []) := by
  induction h with
  | nil =>
      intro n _
      cases n <;> rfl
  | cons first others ih =>
      intro n hn
      have hlength : 0 < n := by
        obtain ⟨c, after, rfl, -⟩ := first.head
        exact Nat.lt_of_lt_of_le (by simp) hn
      obtain ⟨n, rfl⟩ := Nat.exists_eq_succ_of_ne_zero (Nat.ne_of_gt hlength)
      rw [readSegments, readSegment_append first others.endsBareKey]
      simp only
      rw [ih n ?_]
      obtain ⟨c, after, rfl, -⟩ := first.head
      simp only [List.cons_append, List.length_cons, List.length_append] at hn
      omega

theorem readStart_of_spelled (h : AllSpelled (fun _ => Spells) p s) : readStart s = ([], s) := by
  cases h with
  | nil => rfl
  | cons first others =>
      obtain ⟨c, after, rfl, rfl | ⟨rfl, -⟩⟩ := first.head <;> rfl

theorem readStart_append (hne : key ≠ []) (hpoint : '.' ∉ key) (hbracket : '[' ∉ key)
    (hrest : EndsBareKey rest) (hdollar : ∀ c ∈ key.head?, c ≠ '$') :
    readStart (key ++ rest) = ([.key (String.ofList key)], rest) := by
  have hread := readBareKey_append hne hpoint hbracket hrest
  have hstart : ∀ after, key ++ rest = '$' :: after → False := by
    intro after heq
    obtain ⟨c, key, rfl⟩ := List.exists_cons_of_ne_nil hne
    exact hdollar c rfl (List.cons.inj heq).1
  rw [readStart.eq_2 _ hstart, hread]

theorem readLongest_of_readStart {first : Path} (hstart : readStart s = (first, rest))
    (h : AllSpelled (fun _ => Spells) p rest) : readLongest s = (first ++ p, []) := by
  have hrest := readSegments_of_spelled h _ (Nat.le_refl _)
  rw [readLongest, hstart]
  simp only [hrest]

/-- A spelled path is read back in full. -/
theorem readLongest_of_spelled (h : PathSpelled (fun _ => Spells) p s) :
    readLongest s = (p, []) := by
  cases h with
  | rooted segments => exact readLongest_of_readStart rfl segments
  | unrooted segments => exact readLongest_of_readStart (readStart_of_spelled segments) segments
  | withoutPoint segments noDollar =>
      generalize heq : '.' :: s = text at segments
      cases segments with
      | nil => cases heq
      | cons first others =>
          -- Only a bare key starts with a point.
          cases first with
          | @bare key nonempty noPoint noBracket =>
              obtain rfl : s = key ++ _ := (List.cons.inj heq).2
              have hdollar : ∀ c ∈ key.head?, c ≠ '$' := fun c hc =>
                noDollar c (by rw [List.head?_append, hc]; rfl)
              exact readLongest_of_readStart (readStart_append nonempty noPoint noBracket
                others.endsBareKey hdollar) others
          | quoted => cases heq
          | index => cases heq
          | append => cases heq

/-- A spelled path is read back, whatever blanks are around it. -/
theorem read_of_spelled {before after : List Char} (h : PathSpelled (fun _ => Spells) p s)
    (hs : Text.Trimmed s) (hbefore : ∀ c ∈ before, Text.isBlank c = true)
    (hafter : ∀ c ∈ after, Text.isBlank c = true) :
    read (String.ofList (before ++ s ++ after)) = .ok p := by
  rw [read, String.toList_ofList, hs.trim_append hbefore hafter, readLongest_of_spelled h]

section Converse

/-- What is read as a bare key is one, or has a bracket in it that nothing closes. -/
theorem looselySpells_of_readBareKey (h : readBareKey s = some (key, rest)) :
    s = key ++ rest ∧ LooselySpells rest (.key (String.ofList key)) ('.' :: key) := by
  rcases hspan : s.span isBareChar with ⟨name, after⟩
  rw [readBareKey, hspan] at h
  obtain ⟨rfl, hname, hafter⟩ := span_eq_iff.1 hspan
  have hpoint : '.' ∉ name := fun hmem => by cases hname _ hmem
  have hbracket : '[' ∉ name := fun hmem => by cases hname _ hmem
  simp only at h
  split at h
  · cases h
  · rename_i hne
    rw [List.isEmpty_iff] at hne
    split at h
    · rename_i hopen
      simp only [Bool.and_eq_true, beq_iff_eq, Bool.not_eq_true', List.contains_eq_mem,
        decide_eq_false_iff_not] at hopen
      rcases htail : after.span (· != '.') with ⟨tail, others⟩
      rw [htail] at h
      obtain ⟨rfl, htail, hothers⟩ := span_eq_iff.1 htail
      have hupTo : ∀ c ∈ others.head?, c = '.' := fun c hc => by simpa using hothers c hc
      cases h
      -- The tail starts with the bracket, for what follows the tail starts with a point.
      obtain ⟨tail, rfl⟩ : ∃ others, tail = '[' :: others := by
        cases tail with
        | nil => cases hupTo _ hopen.1
        | cons c tail =>
            cases hopen.1
            exact ⟨tail, rfl⟩
      refine ⟨by simp, .unclosed hne hpoint hbracket ?_ ?_ hupTo⟩
      · intro hmem
        cases htail _ (List.mem_cons_of_mem _ hmem)
      · exact fun hmem => hopen.2 (List.mem_cons_of_mem _ hmem)
    · cases h
      exact ⟨rfl, .strict (.bare hne hpoint hbracket)⟩

theorem eq_of_readQuotedKey {quote : Char} (h : readQuotedKey quote s = some (key, rest)) :
    quote ∉ key ∧ s = key ++ quote :: ']' :: rest := by
  rcases hspan : s.span (· != quote) with ⟨name, after⟩
  rw [readQuotedKey, hspan] at h
  obtain ⟨rfl, hname, hafter⟩ := span_eq_iff.1 hspan
  have hquote : quote ∉ name := fun hmem => by simpa using hname _ hmem
  split at h
  · rename_i heq
    cases heq
    cases h
    have hc := hafter _ rfl
    simp only [bne_eq_false_iff_eq] at hc
    exact ⟨hquote, by rw [hc]⟩
  · cases h

theorem looselySpells_of_readIndex (h : readIndex s = some (segment, rest)) :
    ∃ w, s = w ++ rest ∧ LooselySpells rest segment ('[' :: w) := by
  rcases hspan : Scientific.spanDigits s with ⟨digits, after⟩
  rw [readIndex, hspan] at h
  obtain ⟨rfl, hdigits, -⟩ := span_eq_iff.1 hspan
  split at h
  · rename_i d digits others heq
    cases heq
    cases h
    refine ⟨(d :: digits) ++ [']'], by simp, ?_⟩
    rw [ofDigits]
    split
    · rename_i hsmall
      exact .strict (.index (List.cons_ne_nil _ _) hdigits hsmall)
    · exact .anyText (List.cons_ne_nil _ _) fun hmem => by cases hdigits _ hmem
  · cases h

theorem looselySpells_of_readAppend (h : readAppend s = some (segment, rest)) :
    ∃ w, s = w ++ rest ∧ LooselySpells rest segment ('[' :: w) := by
  rcases hspan : s.span (· != ']') with ⟨text, after⟩
  rw [readAppend, hspan] at h
  obtain ⟨rfl, htext, hafter⟩ := span_eq_iff.1 hspan
  split at h
  · rename_i heq
    cases heq
    cases h
    have hc := hafter _ rfl
    simp only [bne_eq_false_iff_eq] at hc
    refine ⟨text ++ [']'], by simp [hc], ?_⟩
    by_cases hempty : text = []
    · subst hempty
      exact .strict .append
    · exact .anyText hempty fun hmem => by simpa using htext _ hmem
  · cases h

theorem looselySpells_of_readBracket (h : readBracket s = some (segment, rest)) :
    ∃ w, s = w ++ rest ∧ LooselySpells rest segment ('[' :: w) := by
  have hquoted : ∀ quote after key, (quote = '\'' ∨ quote = '"') →
      readQuotedKey quote after = some (key, rest) →
        ∃ w, quote :: after = w ++ rest ∧
          LooselySpells rest (.key (String.ofList key)) ('[' :: w) := by
    intro quote after key hquote hread
    obtain ⟨hmem, rfl⟩ := eq_of_readQuotedKey hread
    exact ⟨quote :: key ++ [quote, ']'], by simp, .strict (.quoted hquote hmem)⟩
  unfold readBracket at h
  simp only at h
  split at h
  · rename_i hread
    cases h
    split at hread
    · exact hquoted _ _ _ (.inl rfl) hread
    · exact hquoted _ _ _ (.inr rfl) hread
    · cases hread
  · rcases Option.or_eq_some_iff.1 h with hindex | ⟨-, happend⟩
    · exact looselySpells_of_readIndex hindex
    · exact looselySpells_of_readAppend happend

/-- What is read as a segment is a spelling of it in the wider sense. -/
theorem looselySpells_of_readSegment (h : readSegment s = some (segment, rest)) :
    ∃ w, s = w ++ rest ∧ LooselySpells rest segment w := by
  unfold readSegment at h
  split at h
  · obtain ⟨⟨key, after⟩, hread, heq⟩ := Option.map_eq_some_iff.1 h
    cases heq
    obtain ⟨rfl, hspells⟩ := looselySpells_of_readBareKey hread
    exact ⟨_, rfl, hspells⟩
  · obtain ⟨w, rfl, hspells⟩ := looselySpells_of_readBracket h
    exact ⟨_, rfl, hspells⟩
  · cases h

theorem allSpelled_of_readSegments {n : Nat} (h : readSegments n s = (p, [])) :
    AllSpelled LooselySpells p s := by
  induction n generalizing s p with
  | zero =>
      cases h
      exact .nil
  | succ n ih =>
      rw [readSegments] at h
      split at h
      · cases h
        exact .nil
      · rename_i segment rest hread
        obtain ⟨w, rfl, hspells⟩ := looselySpells_of_readSegment hread
        rcases hsegments : readSegments n rest with ⟨segments, following⟩
        rw [hsegments] at h
        cases h
        exact .cons hspells (ih hsegments)

/-- What is read in full as a path is a spelling of it in the wider sense. -/
theorem pathSpelled_of_readLongest (h : readLongest s = (p, [])) :
    PathSpelled LooselySpells p s := by
  rcases hstart : readStart s with ⟨first, rest⟩
  rcases hsegments : readSegments rest.length rest with ⟨segments, following⟩
  rw [readLongest, hstart] at h
  simp only [hsegments] at h
  cases h
  have hrest := allSpelled_of_readSegments hsegments
  unfold readStart at hstart
  split at hstart
  · cases hstart
    exact .rooted hrest
  · rename_i hdollar
    split at hstart
    · rename_i hread
      cases hstart
      obtain ⟨rfl, hspells⟩ := looselySpells_of_readBareKey hread
      refine .withoutPoint (.cons hspells hrest) ?_
      rintro c hc rfl
      obtain ⟨after, heq⟩ := List.head?_eq_some_iff.1 hc
      exact hdollar after heq
    · cases hstart
      exact .unrooted hrest

/-- What is read as a path is a spelling of it in the wider sense, apart from blanks. -/
theorem pathSpelled_of_read {text : String} (h : read text = .ok p) :
    PathSpelled LooselySpells p (Text.trim text.toList) := by
  rw [read] at h
  split at h
  · rename_i hread
    cases h
    exact pathSpelled_of_readLongest hread
  · cases h

end Converse

end Path

/-- Reading a path gives it back from every spelling, whatever blanks are around it, and
accepts nothing but spellings in the wider sense. -/
theorem path_read_from_spellings :
    (∀ (p : Path) (s before after : List Char),
      Path.PathSpelled (fun _ => Path.Spells) p s → Text.Trimmed s →
        (∀ c ∈ before, Text.isBlank c = true) → (∀ c ∈ after, Text.isBlank c = true) →
          Path.read (String.ofList (before ++ s ++ after)) = .ok p) ∧
    (∀ (text : String) (p : Path), Path.read text = .ok p →
      Path.PathSpelled Path.LooselySpells p (Text.trim text.toList)) := by
  constructor
  · intro p s before after hspelled hs hbefore hafter
    exact Path.read_of_spelled hspelled hs hbefore hafter
  · intro text p h
    exact Path.pathSpelled_of_read h

/-- A key with a single quote is read from double ones, an index with zeros in front of it,
and a bracket that nothing closes as part of a key. -/
theorem unusual_spellings_are_read :
    Path.read " a[\"it's\"][007]\t" = .ok [.key "a", .key "it's", .index 7] ∧
      Path.read "[x].b[c" = .ok [.append, .key "b[c"] ∧
        Path.PathSpelled Path.LooselySpells [.append, .key "b[c"]
          (Text.trim "[x].b[c".toList) := by
  obtain ⟨hread, hspelled⟩ := path_read_from_spellings
  have hbare : Path.Spells (.key (String.ofList ['a'])) ('.' :: ['a']) :=
    .bare (by decide) (by decide) (by decide)
  have hquoted : Path.Spells (.key (String.ofList "it's".toList))
      ('[' :: '"' :: "it's".toList ++ ['"', ']']) := .quoted (.inr rfl) (by decide)
  have hindex : Path.Spells (.index (Scientific.digitsValue ['0', '0', '7']))
      ('[' :: ['0', '0', '7'] ++ [']']) := .index (by decide) (by simp) (by decide)
  have hsegments : Path.AllSpelled (fun _ => Path.Spells) _ _ :=
    .cons hbare (.cons hquoted (.cons hindex .nil))
  have hpath : Path.PathSpelled (fun _ => Path.Spells) [.key "a", .key "it's", .index 7]
      "a[\"it's\"][007]".toList := .withoutPoint hsegments (by simp)
  refine ⟨?_, rfl, hspelled "[x].b[c" _ rfl⟩
  have htext : " a[\"it's\"][007]\t" =
      String.ofList ([' '] ++ "a[\"it's\"][007]".toList ++ ['\t']) := rfl
  have htrimmed : Text.Trimmed "a[\"it's\"][007]".toList := by
    constructor <;> rintro c ⟨⟩ <;> rfl
  rw [htext]
  exact hread _ _ [' '] ['\t'] hpath htrimmed (by simp [Text.isBlank]) (by simp [Text.isBlank])

end DocMatch
