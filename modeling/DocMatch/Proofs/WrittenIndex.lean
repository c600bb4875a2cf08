import DocMatch.Proofs.PathSpelling
import DocMatch.Proofs.WriteStep
/-!
Writing at an index that digits in brackets name.  An index below 2 ^ 64 is written to, with
nulls before it where the sequence is shorter, or refused if it lies too far beyond the end.
Digits of a greater number name no index, and the write adds an item.
-/

namespace DocMatch

/-- Whether a key may stand in front of a path without a `$` or a point. -/
structure Path.IsLeadingKey (key : List Char) : Prop where
  nonempty : key ≠ []
  noPoint : '.' ∉ key
  noBracket : '[' ∉ key
  noDollar : ∀ c ∈ key.head?, c ≠ '$'
  noBlank : ∀ c ∈ key.head?, Text.isBlank c = false

namespace Path

variable {key digits : List Char}

/-- A key and digits in brackets are read as two segments. -/
theorem read_key_digits (hkey : IsLeadingKey key) (hdigits : digits ≠ [])
    (hdecimal : ∀ c ∈ digits, c.isDigit = true) :
    read (String.ofList (key ++ ('[' :: digits ++ [']']))) =
      .ok [.key (String.ofList key), ofDigits digits] := by
  have htrimmed : Text.Trimmed (key ++ ('[' :: digits ++ [']'])) := by
    constructor
    · obtain ⟨c, rest, rfl⟩ := List.exists_cons_of_ne_nil hkey.nonempty
      exact hkey.noBlank
    · rw [← List.append_assoc, List.getLast?_concat]
      rintro c ⟨⟩
      rfl
  have hends : EndsBareKey ('[' :: digits ++ [']']) := by
    rintro c ⟨⟩
    exact .inr ⟨rfl, by simp⟩
  have hstart := readStart_append hkey.nonempty hkey.noPoint hkey.noBracket hends hkey.noDollar
  have hsegments : readSegments ('[' :: digits ++ [']']).length ('[' :: digits ++ [']']) =
      ([ofDigits digits], []) := by
    rw [List.cons_append, List.length_cons, readSegments, ← List.cons_append,
      readSegment_digits hdigits hdecimal]
    simp [readSegments, readSegment]
  rw [read, String.toList_ofList, htrimmed.trim_eq, readLongest, hstart]
  simp only [hsegments]
  rfl

end Path

namespace Value

/-- The items after a write at an index: no more than before, or just enough for the index; the
new value stands there, the other items are as they were, and nulls are where nothing was. -/
structure WrittenAt (items : List Value) (n : Nat) (new : Value) (after : List Value) : Prop where
  length : after.length = max items.length (n + 1)
  written : after[n]? = some new
  kept : ∀ i < items.length, i ≠ n → after[i]? = items[i]?
  padded : ∀ i < n, items.length ≤ i → after[i]? = some .null

variable {items : List Value} {n : Nat}

theorem writtenAt_set (hn : n < items.length) (new : Value) :
    WrittenAt items n new (items.set n new) where
  length := by
    rw [List.length_set]
    omega
  written := by simp [hn]
  kept i _ hne := List.getElem?_set_ne (Ne.symm hne)
  padded i hlt hle := by omega

theorem writtenAt_filledTo (hn : items.length ≤ n) (new : Value) :
    WrittenAt items n new (filledTo items n ++ [new]) where
  length := by
    rw [List.length_append, length_filledTo hn, List.length_singleton]
    omega
  written := by
    have hlength := length_filledTo hn
    rw [List.getElem?_append_right (Nat.le_of_eq hlength), hlength, Nat.sub_self]
    rfl
  kept i hold hne := by
    rcases getElem?_filledTo_append_of_ne hn hne new with heq | ⟨hnone, -⟩
    · exact heq
    · rw [List.getElem?_eq_none_iff] at hnone
      omega
  padded i hlt hnew := by
    have hnone : items[i]? = none := List.getElem?_eq_none hnew
    rcases getElem?_filledTo_append_of_ne hn (Nat.ne_of_lt hlt) new with heq | ⟨-, hnull⟩
    · rw [hnone, List.getElem?_eq_none_iff, List.length_append, length_filledTo hn] at heq
      omega
    · exact hnull

variable {new : Value} {walked : Path}

/-- A write at an index within reach puts the value there. -/
theorem exists_write_index (hn : n ≤ items.length + maxIndexGap) (walked : Path) (new : Value) :
    ∃ after, write walked new (.sequence items) [.index n] = ⟨.sequence after, .ok ()⟩ ∧
      WrittenAt items n new after := by
  rcases Nat.lt_or_ge n items.length with hold | hnew
  · refine ⟨items.set n new, ?_, writtenAt_set hold new⟩
    rw [write_of_opens (.item rfl hold)]
    rfl
  · have hgap : n - items.length ≤ maxIndexGap := by omega
    refine ⟨filledTo items n ++ [new], ?_, writtenAt_filledTo hnew new⟩
    rw [write_of_opens (.padded rfl hnew hgap)]
    rfl

/-- A write at an index out of reach is refused. -/
theorem write_index_of_gap (hn : items.length + maxIndexGap < n) (walked : Path) (new : Value) :
    write walked new (.sequence items) [.index n] =
      ⟨.sequence items, .error (.outOfRange walked n items.length)⟩ := by
  have hgap : maxIndexGap < n - items.length := by omega
  exact write_of_refuses (.gap rfl hgap) walked new []

theorem write_append_sequence (items : List Value) (walked : Path) (new : Value) :
    write walked new (.sequence items) [.append] = ⟨.sequence (items ++ [new]), .ok ()⟩ :=
  write_of_opens (.appended rfl) walked new []

/-- A write below a key of a mapping is a write to the value of the key. -/
theorem set_key_cons {entries : Fields Value} {k : String} {v : Value}
    (hentry : Fields.get? k entries = some v) (segment : Segment) (new : Value) :
    (Value.mapping entries).set [.key k, segment] new =
      ⟨.mapping (Fields.insert k (write [.key k] new v [segment]).tree entries),
        (write [.key k] new v [segment]).result⟩ := by
  rw [set_of_ne_nil (List.cons_ne_nil _ _), write_of_opens (.entry rfl), hentry]
  rfl

end Value

/-- A write at digits in brackets puts the value at that index, if it is within reach and below
2 ^ 64; beyond reach it is refused and changes nothing.  From 2 ^ 64 on the digits name no
index, and the write adds an item instead. -/
theorem written_at_index_below_bound {key digits : List Char} (hkey : Path.IsLeadingKey key)
    (hdigits : digits ≠ []) (hdecimal : ∀ c ∈ digits, c.isDigit = true)
    {entries : Fields Value} {items : List Value}
    (hentry : Fields.get? (String.ofList key) entries = some (.sequence items)) (new : Value) :
    let k := String.ofList key
    let n := Scientific.digitsValue digits
    ∃ p, Path.read (String.ofList (key ++ ('[' :: digits ++ [']']))) = .ok p ∧
      (n < twoTo 64 → n ≤ items.length + Value.maxIndexGap →
        ∃ after, (Value.mapping entries).set p new =
            ⟨.mapping (Fields.insert k (.sequence after) entries), .ok ()⟩ ∧
          Value.WrittenAt items n new after) ∧
      (n < twoTo 64 → items.length + Value.maxIndexGap < n →
        (Value.mapping entries).set p new =
          ⟨.mapping entries, .error (.outOfRange [.key k] n items.length)⟩) ∧
      (twoTo 64 ≤ n → (Value.mapping entries).set p new =
        ⟨.mapping (Fields.insert k (.sequence (items ++ [new])) entries), .ok ()⟩) := by
  intro k n
  refine ⟨_, Path.read_key_digits hkey hdigits hdecimal, ?_, ?_, ?_⟩
  · intro hbound hreach
    have hindex : Path.ofDigits digits = .index n := if_pos hbound
    obtain ⟨after, hwrite, hafter⟩ := Value.exists_write_index hreach [.key k] new
    refine ⟨after, ?_, hafter⟩
    rw [hindex, Value.set_key_cons hentry, hwrite]
  · intro hbound hgap
    have hindex : Path.ofDigits digits = .index n := if_pos hbound
    rw [hindex, Value.set_key_cons hentry, Value.write_index_of_gap hgap,
      Fields.insert_of_get? hentry]
  · intro hbound
    have happend : Path.ofDigits digits = .append := if_neg (Nat.not_lt.2 hbound)
    rw [happend, Value.set_key_cons hentry, Value.write_append_sequence]

/-- Zeros in front of an index do not count, and what is missing before it is filled up. -/
theorem written_at_index_with_zeros :
    Path.IsLeadingKey ['a'] ∧
      ∃ p after, Path.read "a[002]" = .ok p ∧
        (Value.mapping [("a", .sequence [.bool true])]).set p (.bool false) =
          ⟨.mapping [("a", .sequence after)], .ok ()⟩ ∧
        Value.WrittenAt [.bool true] 2 (.bool false) after := by
  have hkey : Path.IsLeadingKey ['a'] := by
    constructor <;> simp [Text.isBlank]
  have hentry : Fields.get? (String.ofList ['a']) [("a", Value.sequence [.bool true])] =
      some (.sequence [.bool true]) := rfl
  obtain ⟨p, hread, hreach, -, -⟩ := written_at_index_below_bound hkey
    (show ['0', '0', '2'] ≠ [] by decide) (List.all_eq_true.mp rfl) hentry (.bool false)
  obtain ⟨after, hset, hafter⟩ := hreach (by decide) (by decide)
  exact ⟨hkey, p, after, hread, hset, hafter⟩

/-- So not every number in brackets is written at or refused: 2 ^ 64 adds an item. -/
theorem great_index_adds_item :
    Path.read "a[18446744073709551616]" = .ok [.key "a", .append] ∧
    (Value.mapping [("a", .sequence [])]).set [.key "a", .append] (.bool true) =
      ⟨.mapping [("a", .sequence [.bool true])], .ok ()⟩ ∧
    ¬ ∀ (key digits : List Char) (entries : Fields Value) (items : List Value) (new : Value)
      (p : Path), Path.IsLeadingKey key → digits ≠ [] → (∀ c ∈ digits, c.isDigit = true) →
        Fields.get? (String.ofList key) entries = some (.sequence items) →
        Path.read (String.ofList (key ++ ('[' :: digits ++ [']']))) = .ok p →
        let n := Scientific.digitsValue digits
        (n ≤ items.length + Value.maxIndexGap ∧
          ((Value.mapping entries).set p new).result = .ok ()) ∨
        (items.length + Value.maxIndexGap < n ∧
          ∃ e, (Value.mapping entries).set p new = ⟨.mapping entries, .error e⟩) := by
  have hread : Path.read "a[18446744073709551616]" = .ok [.key "a", .append] := rfl
  have hset : (Value.mapping [("a", .sequence [])]).set [.key "a", .append] (.bool true) =
      ⟨.mapping [("a", .sequence [.bool true])], .ok ()⟩ := rfl
  refine ⟨hread, hset, fun hall => ?_⟩
  have hkey : Path.IsLeadingKey ['a'] := by
    constructor <;> simp [Text.isBlank]
  rcases hall ['a'] "18446744073709551616".toList [("a", .sequence [])] [] (.bool true) _ hkey
    (by decide) (List.all_eq_true.mp rfl) rfl hread with ⟨hle, -⟩ | ⟨-, e, herror⟩
  · revert hle
    decide
  · rw [hset] at herror
    cases herror

end DocMatch
