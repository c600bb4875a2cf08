import DocMatch.Proofs.PathSpelling
/-!
Paths as they are displayed.  The text of a path that has been read is a spelling of it, and
so is read back, unless a key in it holds both kinds of quotes or the text ends in a blank.
In these two cases something else is read.
-/

namespace DocMatch

/-- Whether one kind of quotes can be put around the key of a segment. -/
def Segment.Quotable : Segment → Prop
  | .key k => '\'' ∉ k.toList ∨ '"' ∉ k.toList
  | _ => True

namespace Path

variable {segment : Segment} {p : Path} {s w rest : List Char}

theorem keyChars_cases (key : List Char) :
    (key ≠ [] ∧ (∀ c ∈ key, isSpecial c = false) ∧ keyChars key = '.' :: key) ∨
    ('\'' ∉ key ∧ keyChars key = '[' :: '\'' :: key ++ ['\'', ']']) ∨
    ('\'' ∈ key ∧ keyChars key = '[' :: '"' :: key ++ ['"', ']']) := by
  rw [keyChars]
  split
  · split
    · rename_i hsingle
      exact .inr (.inr ⟨by simpa using hsingle, rfl⟩)
    · rename_i hsingle
      exact .inr (.inl ⟨by simpa using hsingle, rfl⟩)
  · rename_i hplain
    simp only [needsQuotes, Bool.or_eq_true, List.isEmpty_iff, List.any_eq_true, not_or,
      not_exists, not_and, Bool.not_eq_true] at hplain
    exact .inl ⟨hplain.1.1, hplain.1.2, rfl⟩

/-- A displayed segment is a spelling of it. -/
theorem spells_segmentChars (hquotable : segment.Quotable)
    (hsmall : ∀ n, segment = .index n → n < twoTo 64) :
    Spells segment (segmentChars segment) := by
  cases segment with
  | key k =>
      obtain ⟨key, rfl⟩ : ∃ key, k = String.ofList key := ⟨k.toList, String.ofList_toList.symm⟩
      rw [Segment.Quotable, String.toList_ofList] at hquotable
      rw [segmentChars, String.toList_ofList]
      rcases keyChars_cases key with ⟨hne, hspecial, heq⟩ | ⟨hsingle, heq⟩ | ⟨hsingle, heq⟩
      · rw [heq]
        exact .bare hne (fun hmem => by cases hspecial _ hmem) fun hmem => by cases hspecial _ hmem
      · rw [heq]
        exact .quoted (.inl rfl) hsingle
      · rw [heq]
        exact .quoted (.inr rfl) (hquotable.resolve_left fun h => h hsingle)
  | index n =>
      have hspells : Spells (.index (Scientific.digitsValue (Nat.toDigits 10 n)))
          ('[' :: Nat.toDigits 10 n ++ [']']) := by
        refine .index Nat.toDigits_ne_nil (fun c => Scientific.isDigit_of_mem_toDigits) ?_
        rw [Scientific.digitsValue_toDigits]
        exact hsmall n rfl
      rwa [Scientific.digitsValue_toDigits] at hspells
  | append => exact .append

/-- A spelling of a segment that starts like the displayed one is the displayed one, and then
there are quotes for a key. -/
theorem eq_segmentChars_of_spells {x y : List Char} (h : Spells segment w)
    (heq : w ++ x = segmentChars segment ++ y) :
    w = segmentChars segment ∧ segment.Quotable := by
  cases h with
  | @bare key nonempty noPoint noBracket =>
      rw [segmentChars, String.toList_ofList] at heq ⊢
      rw [Segment.Quotable, String.toList_ofList]
      rcases keyChars_cases key with ⟨-, hspecial, hkey⟩ | ⟨-, hkey⟩ | ⟨-, hkey⟩
      · exact ⟨hkey.symm, .inl fun hmem => by cases hspecial _ hmem⟩
      all_goals
        rw [hkey] at heq
        cases heq
  | @quoted key quote isQuote noQuote =>
      rw [segmentChars, String.toList_ofList] at heq ⊢
      rw [Segment.Quotable, String.toList_ofList]
      rcases keyChars_cases key with ⟨-, -, hkey⟩ | ⟨hsingle, hkey⟩ | ⟨hsingle, hkey⟩
      · rw [hkey] at heq
        cases heq
      · rw [hkey] at heq ⊢
        obtain rfl : quote = '\'' := (List.cons.inj (List.cons.inj heq).2).1
        exact ⟨rfl, .inl noQuote⟩
      · rw [hkey] at heq ⊢
        obtain rfl : quote = '"' := (List.cons.inj (List.cons.inj heq).2).1
        exact ⟨rfl, .inr noQuote⟩
  | @index digits nonempty decimal small =>
      have hdigits : ']' ∉ digits := fun hmem => by cases decimal _ hmem
      have hshown : ']' ∉ Nat.toDigits 10 (Scientific.digitsValue digits) := fun hmem => by
        cases Scientific.isDigit_of_mem_toDigits hmem
      simp only [segmentChars, List.cons_append, List.append_assoc, List.nil_append,
        List.cons.injEq, true_and] at heq ⊢
      rw [← (append_cons_inj_of_not_mem heq hdigits hshown).1]
      exact ⟨rfl, trivial⟩
  | append => exact ⟨rfl, trivial⟩

/-- The same holds of a text that is read as a segment: the liberties of reading are not what a
displayed segment starts with. -/
theorem eq_segmentChars_of_looselySpells {x y : List Char} (h : LooselySpells rest segment w)
    (heq : w ++ x = segmentChars segment ++ y) :
    w = segmentChars segment ∧ segment.Quotable := by
  cases h with
  | strict spells => exact eq_segmentChars_of_spells spells heq
  | anyText nonempty noClosing =>
      obtain ⟨c, text, rfl⟩ := List.exists_cons_of_ne_nil nonempty
      obtain rfl : c = ']' := (List.cons.inj (List.cons.inj heq).2).1
      exact absurd List.mem_cons_self noClosing
  | @unclosed key tail nonempty =>
      rw [segmentChars, String.toList_ofList] at heq
      rcases keyChars_cases (key ++ '[' :: tail) with ⟨-, hspecial, -⟩ | ⟨-, hkey⟩ | ⟨-, hkey⟩
      · cases hspecial '[' (by simp)
      all_goals
        rw [hkey] at heq
        cases heq

/-- If a part of the displayed segments is read as these segments, it is all of them. -/
theorem quotable_of_allSpelled {after : List Char} (h : AllSpelled LooselySpells p s)
    (heq : s ++ after = p.flatMap segmentChars) :
    (∀ segment ∈ p, segment.Quotable) ∧ after = [] := by
  induction h with
  | nil => exact ⟨nofun, heq⟩
  | cons first others ih =>
      rw [List.flatMap_cons, List.append_assoc] at heq
      obtain ⟨rfl, hquotable⟩ := eq_segmentChars_of_looselySpells first heq
      obtain ⟨hothers, hafter⟩ := ih (List.append_cancel_left heq)
      exact ⟨List.forall_mem_cons.2 ⟨hquotable, hothers⟩, hafter⟩

theorem LooselySpells.head (h : LooselySpells rest segment w) :
    ∃ c after, w = c :: after ∧ (c = '.' ∨ c = '[') := by
  cases h with
  | strict spells =>
      obtain ⟨c, after, heq, hc⟩ := spells.head
      exact ⟨c, after, heq, hc.imp_right And.left⟩
  | anyText => exact ⟨_, _, rfl, .inr rfl⟩
  | unclosed => exact ⟨_, _, rfl, .inl rfl⟩

/-- A `$` at the start of a path text is not part of a segment. -/
theorem allSpelled_of_rooted (h : PathSpelled LooselySpells p ('$' :: s)) :
    AllSpelled LooselySpells p s := by
  generalize htext : '$' :: s = text at h
  cases h with
  | rooted segments =>
      obtain rfl := (List.cons.inj htext).2
      exact segments
  | unrooted segments =>
      cases segments with
      | nil => cases htext
      | cons first others =>
          obtain ⟨c, after, rfl, rfl | rfl⟩ := first.head <;> cases htext
  | withoutPoint segments noDollar =>
      subst htext
      exact absurd rfl (noDollar '$' rfl)

theorem index_lt_of_allSpelled (h : AllSpelled LooselySpells p s) :
    ∀ segment ∈ p, ∀ n, segment = .index n → n < twoTo 64 := by
  induction h with
  | nil => nofun
  | cons first others ih =>
      refine List.forall_mem_cons.2 ⟨?_, ih⟩
      rintro n rfl
      cases first with
      | strict spells =>
          cases spells with
          | index nonempty decimal small => exact small

theorem index_lt_of_pathSpelled (h : PathSpelled LooselySpells p s) :
    ∀ segment ∈ p, ∀ n, segment = .index n → n < twoTo 64 := by
  cases h with
  | rooted segments => exact index_lt_of_allSpelled segments
  | unrooted segments => exact index_lt_of_allSpelled segments
  | withoutPoint segments => exact index_lt_of_allSpelled segments

theorem allSpelled_flatMap (hquotable : ∀ segment ∈ p, segment.Quotable)
    (hsmall : ∀ segment ∈ p, ∀ n, segment = .index n → n < twoTo 64) :
    AllSpelled (fun _ => Spells) p (p.flatMap segmentChars) := by
  induction p with
  | nil => exact .nil
  | cons segment p ih =>
      rw [List.forall_mem_cons] at hquotable hsmall
      exact .cons (spells_segmentChars hquotable.1 hsmall.1) (ih hquotable.2 hsmall.2)

/-- Only blanks at the end are lost when the text of a path is trimmed. -/
theorem exists_trim_chars (p : Path) :
    ∃ s after, Text.trim (chars p) = '$' :: s ∧ s ++ after = p.flatMap segmentChars := by
  obtain ⟨after, heq, hblank⟩ := Text.exists_trimRight_append (chars p)
  have hleft : Text.trimLeft (chars p) = chars p := rfl
  rw [Text.trim, hleft]
  cases htrim : Text.trimRight (chars p) with
  | nil =>
      rw [htrim, List.nil_append] at heq
      cases hblank '$' (heq ▸ List.mem_cons_self)
  | cons c s =>
      rw [htrim] at heq
      obtain ⟨rfl, hrest⟩ := List.cons.inj heq
      exact ⟨s, after, rfl, hrest.symm⟩

end Path

/-- The text of a path that has been read is read back exactly if no key in it holds both
kinds of quotes and the text does not end in a blank. -/
theorem displayed_path_read_back_iff {text : String} {p : Path} (h : Path.read text = .ok p) :
    Path.read (Path.text p) = .ok p ↔
      (∀ segment ∈ p, segment.Quotable) ∧
        ∀ c ∈ (Path.chars p).getLast?, Text.isBlank c = false := by
  constructor
  · intro hread
    have hspelled := Path.pathSpelled_of_read hread
    obtain ⟨s, after, htrim, hsegments⟩ := Path.exists_trim_chars p
    rw [Path.text, String.toList_ofList, htrim] at hspelled
    obtain ⟨hquotable, rfl⟩ :=
      Path.quotable_of_allSpelled (Path.allSpelled_of_rooted hspelled) hsegments
    rw [List.append_nil] at hsegments
    subst hsegments
    refine ⟨hquotable, ?_⟩
    have hlast := (Text.trimmed_trim (Path.chars p)).last
    rwa [htrim] at hlast
  · rintro ⟨hquotable, hlast⟩
    have hsmall := Path.index_lt_of_pathSpelled (Path.pathSpelled_of_read h)
    have hspelled : Path.PathSpelled (fun _ => Path.Spells) p (Path.chars p) :=
      .rooted (Path.allSpelled_flatMap hquotable hsmall)
    have htrimmed : Text.Trimmed (Path.chars p) := ⟨fun c hc => by cases hc; rfl, hlast⟩
    have hread : Path.read (String.ofList ([] ++ Path.chars p ++ [])) = .ok p :=
      Path.read_of_spelled hspelled htrimmed nofun nofun
    rwa [List.nil_append, List.append_nil] at hread

/-- A key with a blank at its end is displayed faithfully unless it ends the path. -/
theorem displayed_blank_read_back :
    Path.read "['a ']['it\"s'][007]" = .ok [.key "a ", .key "it\"s", .index 7] ∧
      Path.text [.key "a ", .key "it\"s", .index 7] = "$.a ['it\"s'][7]" ∧
        Path.read "$.a ['it\"s'][7]" = .ok [.key "a ", .key "it\"s", .index 7] := by
  have h : Path.read "['a ']['it\"s'][007]" = .ok [.key "a ", .key "it\"s", .index 7] := rfl
  refine ⟨h, rfl, (displayed_path_read_back_iff h).2 ⟨?_, by rintro c ⟨⟩; rfl⟩⟩
  rw [List.forall_mem_cons, List.forall_mem_cons, List.forall_mem_singleton]
  exact ⟨.inl (by decide), .inl (by decide), trivial⟩

/-- So a displayed path is not always read back: a key with both kinds of quotes is taken for
the place after the last item, and a blank at the end is lost. -/
theorem displayed_path_not_always_read_back :
    (Path.read "a'b\"" = .ok [.key "a'b\""] ∧
      Path.read (Path.text [.key "a'b\""]) = .ok [.append]) ∧
    (Path.read "['a ']" = .ok [.key "a "] ∧
      Path.read (Path.text [.key "a "]) = .ok [.key "a"]) ∧
    ¬ ∀ (text : String) (p : Path), Path.read text = .ok p →
      Path.read (Path.text p) = .ok p := by
  refine ⟨⟨rfl, rfl⟩, ⟨rfl, rfl⟩, ?_⟩
  intro hall
  have hread := hall "a'b\"" _ rfl
  cases hread

end DocMatch
