import DocMatch.Json.Printer
import DocMatch.Json.Reader
import DocMatch.Proofs.ScannedNumbers
/-!
The tokens of printed JSON.  Strings and integers are read back from their text, whatever
follows them, so the text of a document is cut into the tokens of its parts.
-/

namespace DocMatch.Json

namespace Token

variable {c : Char} {s rest : List Char} {token : Token} {tokens : List Token} {i : Int}

theorem hexUnit?_of_lt {n : Nat} (hn : n < 0x20) :
    hexUnit? '0' '0' (Text.hexDigit (n / 16)) (Text.hexDigit (n % 16)) = some n := by
  have hzero : Text.hexValue? '0' = some 0 := rfl
  simp only [hexUnit?, hzero, Text.hexValue?_hexDigit _ (show n / 16 < 16 by omega),
    Text.hexValue?_hexDigit _ (show n % 16 < 16 by omega), Option.bind_eq_bind, Option.bind_some,
    Option.pure_def, Option.some.injEq]
  omega

/-- An escaped character is read as the character. -/
theorem readString_escapeChar (c : Char) (s : List Char) :
    readString none (escapeChar c ++ s) = push c (readString none s) := by
  unfold escapeChar
  -- Five characters are escaped by a letter of their own, two more are given by code points.
  iterate 5
    split
    · subst c
      rfl
  iterate 2
    split
    · rename_i hcode
      rw [← Char.ofNat_toNat c, hcode]
      rfl
  split
  · rename_i hlt
    have hhigh : isHighSurrogate c.toNat = false := by
      simp [isHighSurrogate]
      omega
    have hlow : isLowSurrogate c.toNat = false := by
      simp [isLowSurrogate]
      omega
    simp [readString, hexUnit?_of_lt hlt, hhigh, hlow]
  · rename_i hquote hbackslash _ _ _ _ _ hlt
    simp [readString, hquote, hbackslash, hlt]

/-- A printed string is read back, whatever follows it. -/
theorem readString_append (s rest : List Char) :
    readString none (s.flatMap escapeChar ++ '"' :: rest) = some (s, rest) := by
  induction s with
  | nil => rfl
  | cons c s ih =>
      rw [List.flatMap_cons, List.append_assoc, readString_escapeChar, ih]
      rfl

/-- Whether what follows a value does not go on with a number. -/
def EndsValue (rest : List Char) : Prop :=
  ∀ c ∈ rest.head?, c = ',' ∨ c = ']' ∨ c = '}'

theorem EndsValue.endsNumber (h : EndsValue rest) : JsonNumber.EndsNumber rest := by
  intro c hc
  rcases h c hc with rfl | rfl | rfl <;> exact ⟨rfl, by decide, rfl⟩

/-- The digits of an integer, after a minus sign if it has one. -/
theorem toList_toString (i : Int) :
    (toString i).toList = Scientific.withSign (i < 0) (Nat.toDigits 10 i.natAbs) := by
  rw [Int.toString_eq_repr]
  cases i with
  | ofNat n =>
      rw [decide_eq_false (by simp), Int.repr, Nat.repr_eq_ofList_toDigits, String.toList_ofList]
      rfl
  | negSucc n =>
      rw [decide_eq_true (Int.negSucc_lt_zero n), Int.repr, Nat.repr_eq_ofList_toDigits,
        String.toList_append]
      exact congrArg ('-' :: ·) String.toList_ofList

/-- A printed integer of 64 bits is read back, if what follows does not go on with it. -/
theorem readNumber_append (hlow : JsonNumber.minInteger ≤ i) (hhigh : i ≤ JsonNumber.maxInteger)
    (h : EndsValue rest) :
    JsonNumber.readNumber ((toString i).toList ++ rest) = some (.integer i, rest) := by
  have hwhole := JsonNumber.isWhole_toDigits i.natAbs
  have hsign : (toString i).toList ++ rest =
      Scientific.withSign (i < 0) (Nat.toDigits 10 i.natAbs ++ rest) := by
    rw [toList_toString]
    cases decide (i < 0) <;> rfl
  rw [hsign, JsonNumber.readNumber_withSign hwhole,
    JsonNumber.readUnsigned_whole hwhole h.endsNumber, JsonNumber.ofParts?_integer hlow hhigh]
  rfl

/-- The tokens of a text, read with any sufficient number of steps. -/
def Reads (s : List Char) (tokens : List Token) : Prop :=
  ∀ n, s.length ≤ n → readAll n s = some tokens

theorem reads_nil : Reads [] [] := by
  intro n _
  cases n <;> rfl

/-- Reading one token and then the others. -/
theorem Reads.cons (hspace : isSpace c = false) (hread : readFrom c s = some (token, rest))
    (hlength : rest.length ≤ s.length) (h : Reads rest tokens) :
    Reads (c :: s) (token :: tokens) := by
  intro n hn
  rw [List.length_cons] at hn
  obtain ⟨n, rfl⟩ := Nat.exists_eq_succ_of_ne_zero (Nat.ne_of_gt (Nat.lt_of_lt_of_le (by omega) hn))
  rw [readAll, hspace, hread]
  simp only [Bool.false_eq_true, if_false, h n (by omega), Option.map_some]

theorem reads_quoted (h : Reads rest tokens) (key : String) :
    Reads (quoted key ++ rest) (.scalar (.string key) :: tokens) := by
  have hread : readFrom '"' (key.toList.flatMap escapeChar ++ ['"'] ++ rest) =
      some (.scalar (.string key), rest) := by
    simp only [readFrom, List.append_assoc, List.cons_append, List.nil_append, readString_append,
      Option.map_some, String.ofList_toList]
  exact Reads.cons rfl hread (List.suffix_append _ rest).length_le h

/-- A sign or a digit starts a number. -/
theorem readFrom_number (hc : c = '-' ∨ c.isDigit = true) :
    isSpace c = false ∧
      readFrom c s = (JsonNumber.readNumber (c :: s)).map
        fun (n, rest) => (.scalar (.number n), rest) := by
  rcases hc with rfl | hc
  · exact ⟨rfl, rfl⟩
  · constructor
    · rw [Bool.eq_false_iff]
      intro hspace
      simp only [isSpace, Bool.or_eq_true, beq_iff_eq] at hspace
      rcases hspace with ((rfl | rfl) | rfl) | rfl <;> cases hc
    · unfold readFrom
      split
      -- None of the characters with a meaning of their own is a digit.
      all_goals first
        | cases hc
        | rfl

theorem reads_integer (hlow : JsonNumber.minInteger ≤ i) (hhigh : i ≤ JsonNumber.maxInteger)
    (hrest : EndsValue rest) (h : Reads rest tokens) :
    Reads ((toString i).toList ++ rest) (.scalar (.number (.integer i)) :: tokens) := by
  have hread := readNumber_append hlow hhigh hrest
  obtain ⟨c, digits, heq, hc⟩ : ∃ c digits, (toString i).toList = c :: digits ∧
      (c = '-' ∨ c.isDigit = true) := by
    rw [toList_toString, Scientific.withSign]
    split
    · exact ⟨_, _, rfl, .inl rfl⟩
    · obtain ⟨d, digits, hdigits, hd⟩ := Scientific.exists_toDigits_eq_cons i.natAbs
      exact ⟨d, digits, hdigits, .inr hd⟩
  rw [heq, List.cons_append] at hread ⊢
  obtain ⟨hspace, hfrom⟩ := readFrom_number (s := digits ++ rest) hc
  refine Reads.cons hspace ?_ (by simp) h
  rw [hfrom, hread]
  rfl

end Token

end DocMatch.Json
