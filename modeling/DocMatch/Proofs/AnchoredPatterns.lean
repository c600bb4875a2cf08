import DocMatch.Proofs.MarkedPatterns
import DocMatch.Proofs.MarkerSpelling
import DocMatch.Proofs.MatchedSpans
/-!
Pattern markers.  The pattern between marks of the start and the end of the text is read as what
the pattern is read as by itself, between these marks, unless a comment at its end hides the mark
of the end.  So whatever its branches, groups and flags, a pattern that makes a marker matches
whole texts.
-/

namespace DocMatch

namespace Regex

/-- Whether reading accepts an item: it is neither too deep nor too large. -/
def Item.IsWithinLimits (item : Item) : Prop :=
  item.depth ≤ nestLimit ∧ item.form.isSmall = true

instance (item : Item) : Decidable item.IsWithinLimits :=
  inferInstanceAs (Decidable (_ ∧ _))

/-- An item between marks of the start and the end of the text. -/
def Item.anchored (item : Item) : Item :=
  sequenceOf [.ofAtom (.look .textEnd) 0, item.enclosed none, .ofAtom (.look .textStart) 0]

/-- The item that all of a pattern is read as, whatever its depth and size. -/
def wholeItem? (s : List Char) : Option Item :=
  (readBody (s.length + 1) [] [] ⟨s, .initial, [], 0⟩).bind fun p =>
    if p.2.rest.isEmpty then some p.1 else none

section Whole

variable {s : List Char} {item : Item}

theorem wholeItem?_eq_some_iff : wholeItem? s = some item ↔
    ∃ flags names groups, readBody (s.length + 1) [] [] ⟨s, .initial, [], 0⟩ =
      some (item, ⟨[], flags, names, groups⟩) := by
  rw [wholeItem?, Option.bind_eq_some_iff]
  constructor
  · rintro ⟨⟨found, rest, flags, names, groups⟩, hread, heq⟩
    split at heq
    case isTrue hrest =>
      cases heq
      cases List.isEmpty_iff.mp hrest
      exact ⟨flags, names, groups, hread⟩
    case isFalse => cases heq
  · rintro ⟨flags, names, groups, hread⟩
    exact ⟨_, hread, rfl⟩

theorem readExpr?_eq_some_iff {e : Expr Atom} : readExpr? s = some e ↔
    ∃ item, wholeItem? s = some item ∧ item.IsWithinLimits ∧ item.expr = e := by
  rw [readExpr?, Option.bind_eq_bind, Option.bind_eq_some_iff]
  constructor
  · rintro ⟨⟨item, rest, flags, names, groups⟩, hread, heq⟩
    dsimp only at heq
    split at heq
    case isTrue hlimits =>
      cases heq
      rw [Bool.and_eq_true, Bool.and_eq_true, decide_eq_true_iff] at hlimits
      obtain ⟨⟨hrest, hdepth⟩, hsmall⟩ := hlimits
      cases List.isEmpty_iff.mp hrest
      exact ⟨item, wholeItem?_eq_some_iff.mpr ⟨flags, names, groups, hread⟩, ⟨hdepth, hsmall⟩, rfl⟩
    case isFalse => cases heq
  · rintro ⟨item, hitem, ⟨hdepth, hsmall⟩, rfl⟩
    obtain ⟨flags, names, groups, hread⟩ := wholeItem?_eq_some_iff.mp hitem
    exact ⟨_, hread, by dsimp only; rw [decide_eq_true hdepth, hsmall]; rfl⟩

theorem read?_eq_some_iff {source : String} {r : Regex} : read? source = some r ↔
    ∃ item, wholeItem? source.toList = some item ∧ item.IsWithinLimits ∧
      r = ⟨source, item.expr⟩ := by
  rw [read?, Option.map_eq_some_iff]
  constructor
  · rintro ⟨e, he, rfl⟩
    obtain ⟨item, hitem, hlimits, rfl⟩ := readExpr?_eq_some_iff.mp he
    exact ⟨item, hitem, hlimits, rfl⟩
  · rintro ⟨item, hitem, hlimits, rfl⟩
    exact ⟨item.expr, readExpr?_eq_some_iff.mpr ⟨item, hitem, hlimits, rfl⟩, rfl⟩

theorem read?_eq_none {source : String} (h : wholeItem? source.toList = none) :
    read? source = none := by
  rw [Option.eq_none_iff_forall_ne_some]
  intro r hr
  obtain ⟨item, hitem, -⟩ := read?_eq_some_iff.mp hr
  rw [h] at hitem
  cases hitem

end Whole

section Anchors

variable {s : List Char} {item : Item} {n : Nat} {flags : Flags} {names : List (List Char)}
  {groups : Nat}

theorem skip_initial (s : List Char) : skip .initial s = s := rfl

theorem readGroupStart_plain (s : List Char) : readGroupStart ⟨'?' :: ':' :: s, .initial, [], 0⟩ =
    some (.group ⟨s, .initial, [], 0⟩ none) := rfl

/-- A group that remembers nothing is read up to its closing parenthesis. -/
theorem readBody_group {rest : List Char} (h : readBody n [] [] ⟨s, .initial, [], 0⟩ =
    some (item, ⟨')' :: rest, flags, names, groups⟩)) (items : List Item) :
    readBody (n + 1) items [] ⟨'(' :: '?' :: ':' :: s, .initial, [], 0⟩ =
      readBody n (item.enclosed none :: items) [] ⟨rest, .initial, names, groups⟩ := by
  conv => lhs; unfold readBody
  simp only [skip_initial, readGroupStart_plain, Option.bind_eq_bind, Option.bind_some, h]

/-- Without its closing parenthesis a group is refused. -/
theorem readBody_open_group (h : readBody n [] [] ⟨s, .initial, [], 0⟩ =
    some (item, ⟨[], flags, names, groups⟩)) (items : List Item) :
    readBody (n + 1) items [] ⟨'(' :: '?' :: ':' :: s, .initial, [], 0⟩ = none := by
  conv => lhs; unfold readBody
  simp only [skip_initial, readGroupStart_plain, Option.bind_eq_bind, Option.bind_some, h]

/-- The mark of the start and the opening parenthesis, which stand before a pattern. -/
def startMark : List Char := ['^', '(', '?', ':']

/-- The closing parenthesis and the mark of the end, which stand after a pattern. -/
def endMark : List Char := [')', '$']

/-- Nothing after patterns. -/
def EndMark.nothing : EndMark :=
  ⟨[], True, by rintro _ ⟨⟩, nofun, nofun⟩

/-- The closing marks after a given pattern. -/
def EndMark.after (s : List Char) : EndMark :=
  ⟨endMark, '#' ∈ s, by rintro _ ⟨⟩; rfl, by decide, by decide⟩

/-- The marks around a pattern are read as its anchors. -/
theorem readBody_anchored (h : readBody (n + 2) [] [] ⟨s, .initial, [], 0⟩ =
    some (item, ⟨endMark, flags, names, groups⟩)) :
    readBody (n + 4) [] [] ⟨startMark ++ s, .initial, [], 0⟩ =
      some (item.anchored, ⟨[], .initial, names, groups⟩) :=
  (readBody_group h [.ofAtom (.look .textStart) 0]).trans rfl

theorem readBody_not_anchored (h : readBody n [] [] ⟨s, .initial, [], 0⟩ =
    some (item, ⟨[], flags, names, groups⟩)) :
    readBody (n + 2) [] [] ⟨startMark ++ s, .initial, [], 0⟩ = none :=
  (readBody_open_group h [.ofAtom (.look .textStart) 0]).trans rfl

theorem SameScan.eq_of_nothing {scan scan' : Scan} (h : SameScan .nothing scan scan') :
    scan' = scan := by
  cases h with
  | intro h flags names groups =>
    cases h with
    | shown s => rw [show EndMark.nothing.text = [] from rfl, List.append_nil]
    | hidden => rfl

/-- More steps than needed change nothing. -/
theorem readBody_of_le {n' : Nat} (hn : n ≤ n') {items branches : List Item} {scan scan' : Scan}
    (h : readBody n items branches scan = some (item, scan')) :
    readBody n' items branches scan = some (item, scan') := by
  obtain ⟨s, flags, names, groups⟩ := scan
  have hsame : SameScan .nothing ⟨s, flags, names, groups⟩ ⟨s ++ [], flags, names, groups⟩ :=
    .intro (.shown s fun _ => trivial) flags names groups
  rw [List.append_nil] at hsame
  obtain ⟨after, hread, hafter⟩ := kept_readBody hsame hn items branches item scan' h
  rw [hread, hafter.eq_of_nothing]

/-- Between the marks a pattern is read as by itself, with anchors, unless a comment hides the
closing ones, so that they can stand after the pattern without the opening ones. -/
theorem wholeItem?_anchored (h : wholeItem? s = some item) :
    wholeItem? (s ++ endMark) = none ∧
        wholeItem? (startMark ++ (s ++ endMark)) = some item.anchored ∨
      '#' ∈ s ∧ wholeItem? (s ++ endMark) = some item ∧
        wholeItem? (startMark ++ (s ++ endMark)) = none := by
  obtain ⟨flags, names, groups, hread⟩ := wholeItem?_eq_some_iff.mp h
  have hsame : SameScan (.after s) ⟨s, .initial, [], 0⟩ ⟨s ++ endMark, .initial, [], 0⟩ :=
    .intro (.shown s id) .initial [] 0
  obtain ⟨after, hmarked, hafter⟩ := kept_readBody hsame le_rfl [] [] item _ hread
  have hlength : (s ++ endMark).length + 1 = s.length + 3 := by
    rw [List.length_append]
    rfl
  have hlength' : (startMark ++ (s ++ endMark)).length + 1 = s.length + 3 + 4 := by
    simp only [List.length_append, startMark, endMark, List.length_cons, List.length_nil]
    omega
  cases hafter with
  | intro hrest =>
    cases hrest with
    | shown =>
      -- the parenthesis is left over after the pattern alone, and closes the group of the anchors
      refine .inl ⟨?_, wholeItem?_eq_some_iff.mpr ⟨.initial, names, groups, ?_⟩⟩
      · rw [wholeItem?, hlength, readBody_of_le (by omega) hmarked]
        rfl
      · rw [hlength']
        exact readBody_anchored (readBody_of_le (by omega) hmarked)
    | hidden hsign =>
      -- the comment takes both marks, and the group of the anchors stays open
      refine .inr ⟨hsign, wholeItem?_eq_some_iff.mpr ⟨flags, names, groups, ?_⟩, ?_⟩
      · rw [hlength]
        exact readBody_of_le (by omega) hmarked
      · rw [wholeItem?, hlength',
          readBody_not_anchored (n := s.length + 3 + 2) (readBody_of_le (by omega) hmarked)]
        rfl

/-- Whether a pattern is within the limits when it stands between the marks. -/
def FitsAnchored (pattern : String) : Prop :=
  ∀ item, wholeItem? pattern.toList = some item → item.anchored.IsWithinLimits

instance (pattern : String) : Decidable (FitsAnchored pattern) :=
  decidable_of_iff
    ((wholeItem? pattern.toList).all (fun item => decide item.anchored.IsWithinLimits) = true) <| by
      simp only [Option.all_eq_true, decide_eq_true_iff, FitsAnchored]

theorem toList_anchored (pattern : String) :
    (Registry.anchored pattern).toList = startMark ++ (pattern.toList ++ endMark) := by
  rw [Registry.anchored, String.toList_append, String.toList_append, List.append_assoc]
  rfl

theorem toList_closed (pattern : String) :
    (pattern ++ ")$").toList = pattern.toList ++ endMark := by
  rw [String.toList_append]
  rfl

variable {pattern : String} {r whole : Regex}

/-- What a pattern that is read by itself is read as between the marks. -/
theorem read?_anchored_iff (h : read? pattern = some r) :
    read? (Registry.anchored pattern) = some whole ↔
      read? (pattern ++ ")$") = none ∧ FitsAnchored pattern ∧
        whole = ⟨Registry.anchored pattern, Expr.sequence
          [.atom (.look .textStart), r.expr, .atom (.look .textEnd)]⟩ := by
  obtain ⟨item, hitem, hlimits, rfl⟩ := read?_eq_some_iff.mp h
  rw [read?_eq_some_iff, toList_anchored]
  rcases wholeItem?_anchored hitem with ⟨hnone, hsome⟩ | ⟨-, hsome, hnone⟩
  · constructor
    · rintro ⟨other, hother, hfits, rfl⟩
      cases hsome.symm.trans hother
      refine ⟨read?_eq_none (by rw [toList_closed, hnone]), fun other hother => ?_, rfl⟩
      cases hitem.symm.trans hother
      exact hfits
    · rintro ⟨-, hfits, rfl⟩
      exact ⟨item.anchored, hsome, hfits item hitem, rfl⟩
  · have hhidden : read? (pattern ++ ")$") = some ⟨pattern ++ ")$", item.expr⟩ := by
      rw [read?_eq_some_iff, toList_closed]
      exact ⟨item, hsome, hlimits, rfl⟩
    rw [hnone, hhidden]
    constructor
    · rintro ⟨other, hother, -⟩
      cases hother
    · rintro ⟨hshown, -⟩
      cases hshown

/-- Only a comment can hide the closing marks. -/
theorem read?_closed_eq_none (h : read? pattern = some r) (hsign : '#' ∉ pattern.toList) :
    read? (pattern ++ ")$") = none := by
  obtain ⟨item, hitem, -⟩ := read?_eq_some_iff.mp h
  apply read?_eq_none
  rw [toList_closed]
  rcases wholeItem?_anchored hitem with ⟨hnone, -⟩ | ⟨hcomment, -⟩
  · exact hnone
  · exact absurd hcomment hsign

end Anchors

end Regex

section Markers

variable {pattern : String} {r whole : Regex}

/-- The marker of a pattern stands for the validator that the pattern makes. -/
theorem read_patternMarker (hne : pattern ≠ "") (htrim : Text.Trimmed pattern.toList) :
    Marker.read .builtin ("#regex " ++ pattern) =
      ((Registry.regex (some pattern)).mapError (.invalidArgument "#regex")).map fun v =>
        some (.validator ("#regex " ++ pattern) false v) := by
  have hchars : pattern.toList ≠ [] := fun h => hne (String.toList_eq_nil_iff.mp h)
  have hform : (Marker.Form.named false "regex".toList (some pattern.toList)).IsReadable := by
    refine ⟨by decide, List.all_eq_true.mp rfl, ?_⟩
    rintro _ ⟨⟩
    exact ⟨hchars, htrim⟩
  have htext : (Marker.Form.named false "regex".toList (some pattern.toList)).text =
      "#regex " ++ pattern := by
    rw [← String.toList_inj, Marker.Form.text, String.toList_ofList, String.toList_append]
    rfl
  have hfactory : Fields.get? "regex" Registry.builtin = some Registry.regex := rfl
  rw [← htext, Marker.read_text _ hform, Marker.Form.reading, htext, String.ofList_toList,
    Option.map_some, String.ofList_toList, Registry.compile, hfactory]
  dsimp only
  cases Registry.regex (some pattern) with
  | ok v => rfl
  | error fault => rfl

theorem read_patternMarker_of_some (hne : pattern ≠ "") (htrim : Text.Trimmed pattern.toList)
    (h : Regex.read? pattern = some r)
    (hwhole : Regex.read? (Registry.anchored pattern) = some whole) :
    Marker.read .builtin ("#regex " ++ pattern) =
      .ok (some (.validator ("#regex " ++ pattern) false (.regex pattern whole))) := by
  have hempty : pattern.isEmpty = false := String.isEmpty_eq_false_iff.mpr hne
  have hregex : Registry.regex (some pattern) = .ok (.regex pattern whole) := by
    unfold Registry.regex
    simp only [Option.getD_some, htrim.trim_eq, String.ofList_toList, hempty, h, hwhole,
      Bool.false_eq_true, if_false]
  rw [read_patternMarker hne htrim, hregex]
  rfl

theorem read_patternMarker_of_none (hne : pattern ≠ "") (htrim : Text.Trimmed pattern.toList)
    (h : Regex.read? pattern = none ∨ Regex.read? (Registry.anchored pattern) = none) :
    Marker.read .builtin ("#regex " ++ pattern) =
      .error (.invalidArgument "#regex" .badPattern) := by
  have hempty : pattern.isEmpty = false := String.isEmpty_eq_false_iff.mpr hne
  have hregex : Registry.regex (some pattern) = .error .badPattern := by
    unfold Registry.regex
    simp only [Option.getD_some, htrim.trim_eq, String.ofList_toList, hempty,
      Bool.false_eq_true, if_false]
    split
    case h_1 hread hanchored =>
      rw [hread, hanchored] at h
      rcases h with h | h
      · cases h
      · cases h
    case h_2 => rfl
  rw [read_patternMarker hne htrim, hregex]
  rfl

/-- A marker is made exactly if the pattern is read both by itself and between the marks. -/
theorem read_patternMarker_iff (hne : pattern ≠ "") (htrim : Text.Trimmed pattern.toList)
    {m : Marker} : Marker.read .builtin ("#regex " ++ pattern) = .ok (some m) ↔
      ∃ r whole, Regex.read? pattern = some r ∧
        Regex.read? (Registry.anchored pattern) = some whole ∧
        m = .validator ("#regex " ++ pattern) false (.regex pattern whole) := by
  constructor
  · intro hm
    cases hread : Regex.read? pattern with
    | none =>
      rw [read_patternMarker_of_none hne htrim (.inl hread)] at hm
      cases hm
    | some r =>
      cases hwhole : Regex.read? (Registry.anchored pattern) with
      | none =>
        rw [read_patternMarker_of_none hne htrim (.inr hwhole)] at hm
        cases hm
      | some whole =>
        rw [read_patternMarker_of_some hne htrim hread hwhole] at hm
        cases hm
        exact ⟨r, whole, rfl, rfl, rfl⟩
  · rintro ⟨r, whole, hread, hwhole, rfl⟩
    exact read_patternMarker_of_some hne htrim hread hwhole

/-- A pattern marker passes the texts that its expression is found in. -/
theorem check_patternMarker_eq_nil_iff (text : String) (v : Value) :
    (Marker.validator text false (.regex pattern whole)).check v = [] ↔
      ∃ s, v = .string s ∧ whole.isMatch s = true := by
  have hcheck : (Marker.validator text false (.regex pattern whole)).check v = [] ↔
      (Validator.regex pattern whole).accepts v = true := by
    rw [Marker.check, Validator.check]
    cases (Validator.regex pattern whole).accepts v with
    | true => exact iff_of_true rfl rfl
    | false => exact iff_of_false nofun nofun
  rw [hcheck]
  cases v with
  | string s =>
    constructor
    · exact fun h => ⟨s, rfl, h⟩
    · rintro ⟨_, ⟨⟩, h⟩
      exact h
  | _ => exact iff_of_false nofun nofun

end Markers

/-- A pattern marker matches whole texts.  It is a marker exactly if its pattern is read by itself,
is within the limits between the marks too, and no comment at its end hides the closing marks; any
other pattern is refused.  The marker then passes a value exactly if this is a text that what the
pattern is read as by itself spans from its start to its end. -/
theorem pattern_marker_spans_text (pattern : String) (hne : pattern ≠ "")
    (htrim : Text.Trimmed pattern.toList) :
    ((∃ m, Marker.read .builtin ("#regex " ++ pattern) = .ok (some m)) ↔
      (∃ r, Regex.read? pattern = some r) ∧ Regex.FitsAnchored pattern ∧
        Regex.read? (pattern ++ ")$") = none) ∧
    ((¬ ∃ m, Marker.read .builtin ("#regex " ++ pattern) = .ok (some m)) →
      Marker.read .builtin ("#regex " ++ pattern) =
        .error (.invalidArgument "#regex" .badPattern)) ∧
    (∀ m, Marker.read .builtin ("#regex " ++ pattern) = .ok (some m) →
      ∃ r, Regex.read? pattern = some r ∧ ∀ v, m.check v = [] ↔
        ∃ s, v = .string s ∧ r.expr.Spans s.toList.toArray 0 s.toList.length) ∧
    ('#' ∉ pattern.toList → (∃ r, Regex.read? pattern = some r) →
      Regex.read? (pattern ++ ")$") = none) := by
  refine ⟨?_, ?_, ?_, ?_⟩
  · constructor
    · rintro ⟨m, hm⟩
      obtain ⟨r, whole, hread, hwhole, -⟩ := (read_patternMarker_iff hne htrim).mp hm
      obtain ⟨hshown, hfits, -⟩ := (Regex.read?_anchored_iff hread).mp hwhole
      exact ⟨⟨r, hread⟩, hfits, hshown⟩
    · rintro ⟨⟨r, hread⟩, hfits, hshown⟩
      have hwhole := (Regex.read?_anchored_iff hread).mpr ⟨hshown, hfits, rfl⟩
      exact ⟨_, (read_patternMarker_iff hne htrim).mpr ⟨r, _, hread, hwhole, rfl⟩⟩
  · intro hnone
    apply read_patternMarker_of_none hne htrim
    by_contra hreads
    rw [not_or, ← ne_eq, ← ne_eq, Option.ne_none_iff_exists', Option.ne_none_iff_exists'] at hreads
    obtain ⟨⟨r, hread⟩, whole, hwhole⟩ := hreads
    exact hnone ⟨_, (read_patternMarker_iff hne htrim).mpr ⟨r, whole, hread, hwhole, rfl⟩⟩
  · intro m hm
    obtain ⟨r, whole, hread, hwhole, rfl⟩ := (read_patternMarker_iff hne htrim).mp hm
    obtain ⟨-, -, heq⟩ := (Regex.read?_anchored_iff hread).mp hwhole
    have hexpr : whole.expr = _ := congrArg Regex.expr heq
    refine ⟨r, hread, fun v => ?_⟩
    rw [check_patternMarker_eq_nil_iff]
    exact exists_congr fun s => and_congr_right fun _ => Regex.isMatch_anchored hexpr s
  · rintro hsign ⟨r, hread⟩
    exact Regex.read?_closed_eq_none hread hsign

/-- Both branches of a choice are bound to the whole text. -/
theorem choice_marker_spans_text : ("a|b" ≠ "" ∧ Text.Trimmed "a|b".toList) ∧
    ∃ m, Marker.read .builtin "#regex a|b" = .ok (some m) ∧
      m.check (.string "b") = [] ∧ m.check (.string "ab") ≠ [] := by
  have htrim : Text.Trimmed "a|b".toList := by constructor <;> rintro c ⟨⟩ <;> rfl
  have hread : ∃ r, Regex.read? "a|b" = some r := Option.isSome_iff_exists.mp (by decide +kernel)
  have hexpr : (Regex.wholeItem? "a|b".toList).map Regex.Item.expr =
      some (.alt (.atom (.char (.single 'a'))) (.atom (.char (.single 'b')))) := rfl
  obtain ⟨hiff, -, hcheck, hclosed⟩ := pattern_marker_spans_text "a|b" (by decide) htrim
  obtain ⟨m, hm⟩ := hiff.mpr ⟨hread, by decide +kernel, hclosed (by decide) hread⟩
  obtain ⟨r, hr, hspans⟩ := hcheck m hm
  obtain ⟨item, hitem, -, rfl⟩ := Regex.read?_eq_some_iff.mp hr
  rw [hitem] at hexpr
  refine ⟨⟨by decide, htrim⟩, m, hm, ?_, ?_⟩
  · rw [hspans]
    refine ⟨"b", rfl, ?_⟩
    rw [Option.some.inj hexpr]
    exact .inr ⟨rfl, 'b', rfl, rfl⟩
  · rw [ne_eq, hspans]
    rintro ⟨_, ⟨⟩, hspan⟩
    rw [Option.some.inj hexpr] at hspan
    rcases hspan with ⟨hlength, -⟩ | ⟨hlength, -⟩
    · exact absurd hlength (by decide)
    · exact absurd hlength (by decide)

/-- A pattern that ends in a comment is read by itself, but makes no marker. -/
theorem comment_hides_closing_marks : (∃ r, Regex.read? "(?x)a # note" = some r) ∧
    Marker.read .builtin "#regex (?x)a # note" =
      .error (.invalidArgument "#regex" .badPattern) := by
  constructor
  · exact Option.isSome_iff_exists.mp (by decide +kernel)
  · have htrim : Text.Trimmed "(?x)a # note".toList := by constructor <;> rintro c ⟨⟩ <;> rfl
    have htext : "#regex (?x)a # note" = "#regex " ++ "(?x)a # note" := by decide
    have hwhole : Regex.read? (Registry.anchored "(?x)a # note") = none :=
      Option.isNone_iff_eq_none.mp (by decide +kernel)
    rw [htext]
    exact read_patternMarker_of_none (by decide) htrim (.inr hwhole)

end DocMatch
