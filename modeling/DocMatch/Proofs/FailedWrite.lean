import DocMatch.Proofs.WriteStep
/-!
What a failed write leaves behind.  A write fails before it changes anything, with one
exception: where the walk stands at a null or makes one, and an index leads too far from
there, the empty sequence that it has made for the index stays.
-/

namespace DocMatch

namespace Value

variable {v new : Value} {walked p : Path} {segment : Segment} {e : PathError}

theorem write_cons_ne_null (walked : Path) (new v : Value) (segment : Segment) (rest : Path) :
    (write walked new v (segment :: rest)).tree ≠ .null := by
  rcases opens_or_refuses v segment with ⟨before, put, hopens⟩ | ⟨error, hrefuses⟩
  · rw [write_of_opens hopens]
    exact hopens.put_ne_null _
  · rw [write_of_refuses hrefuses]
    exact opened_ne_null v segment

/-- An index is out of range of a sequence that is there, or of the one that is made of a
null. -/
theorem Refuses.outOfRange_or_null {error : Path → PathError} (h : Refuses v segment error) :
    (v ≠ .null ∧ ∀ walked place n length, error walked = .outOfRange place n length →
      ∃ items, place = walked ∧ length = items.length ∧ v = .sequence items) ∨
    (v = .null ∧ ∃ n, segment = .index n ∧ maxIndexGap < n ∧
      ∀ walked, error walked = .outOfRange walked n 0) := by
  cases h with
  | @gap items n h hgap =>
      rcases eq_of_opened_eq_sequence h with rfl | ⟨rfl, rfl⟩
      · refine .inl ⟨nofun, fun walked place n' length herror => ?_⟩
        cases herror
        exact ⟨items, rfl, rfl, rfl⟩
      · exact .inr ⟨rfl, n, rfl, hgap, fun walked => rfl⟩
  | readOnly h =>
      subst h
      exact .inl ⟨nofun, nofun⟩
  | notAContainer helement hkind =>
      refine .inl ⟨?_, nofun⟩
      have hopened := opened_eq_of_not_takesSegment hkind
      rw [← hopened]
      exact opened_ne_null v segment

/-- A failed write leaves the value as it was, or it has written an empty sequence to a
place where nothing or a null was. -/
theorem failed_write (h : (write walked new v p).result = .error e) :
    ((write walked new v p).tree = v ∧ ∀ place n length, e = .outOfRange place n length →
      ∃ q items, place = walked ++ q ∧ length = items.length ∧
        v.get? q = some (.sequence items)) ∨
    ((write walked new v p).tree ≠ v ∧ ∃ q n rest, p = q ++ .index n :: rest ∧
      maxIndexGap < n ∧ e = .outOfRange (walked ++ q) n 0 ∧
      (v.get? q = none ∨ v.get? q = some .null) ∧
        write walked (.sequence []) v q = ⟨(write walked new v p).tree, .ok ()⟩) := by
  induction p generalizing v walked with
  | nil => cases h
  | cons segment p ih =>
      rcases opens_or_refuses v segment with ⟨before, put, hopens⟩ | ⟨error, hrefuses⟩
      · rw [write_of_opens hopens] at h ⊢
        rcases ih h with ⟨hsame, hplace⟩ | ⟨hne, q, n, rest, rfl, hn, he, hq, hwrite⟩
        · -- The rest of the walk leaves no null behind, so it has been at a value that is there.
          have hbefore : before ≠ .null := by
            cases p with
            | nil => cases h
            | cons s p => exact hsame ▸ write_cons_ne_null _ new before s p
          have hchild := hopens.child?_of_ne_null hbefore
          refine .inl ⟨?_, fun place n length he => ?_⟩
          · rw [hsame]
            exact hopens.put_of_child? hchild
          · obtain ⟨q, items, hq, hlength, hitems⟩ := hplace place n length he
            refine ⟨segment :: q, items, by simp [hq], hlength, ?_⟩
            rw [hopens.get?_cons, hchild]
            exact hitems
        · refine .inr ⟨hopens.put_ne hne, segment :: q, n, rest, rfl, hn, by simp [he], ?_, ?_⟩
          · rcases hopens.get?_before q with heq | ⟨hnone, -⟩
            · rwa [heq]
            · exact .inl hnone
          · rw [write_of_opens hopens, hwrite]
      · rw [write_of_refuses hrefuses] at h ⊢
        obtain rfl := Except.error.inj h
        rcases hrefuses.outOfRange_or_null with ⟨hv, hplace⟩ | ⟨rfl, n, rfl, hn, herror⟩
        · refine .inl ⟨opened_of_ne_null hv segment, fun place n length he => ?_⟩
          obtain ⟨items, rfl, hlength, rfl⟩ := hplace walked place n length he
          exact ⟨[], items, by simp, hlength, rfl⟩
        · exact .inr ⟨nofun, [], n, p, rfl, hn, by simp [herror], .inr rfl, rfl⟩

end Value

/-- A failed write leaves the tree as it was, or it has written an empty sequence, for an
index too far from its start, to a place where nothing or a null was. -/
theorem failed_set_keeps_tree_or_makes_sequence {root new : Value} {p : Path} {e : PathError}
    (h : (root.set p new).result = .error e) :
    ((root.set p new).tree = root ∧ ∀ place n length, e = .outOfRange place n length →
      ∃ items, length = items.length ∧ root.get? place = some (.sequence items)) ∨
    ((root.set p new).tree ≠ root ∧ ∃ place n rest, p = place ++ .index n :: rest ∧
      Value.maxIndexGap < n ∧ e = .outOfRange place n 0 ∧
        (root.get? place = none ∨ root.get? place = some .null) ∧
          Value.write [] (.sequence []) root place = ⟨(root.set p new).tree, .ok ()⟩) := by
  by_cases hp : p = []
  · subst hp
    cases h
    exact .inl ⟨rfl, nofun⟩
  · rw [Value.set_of_ne_nil hp] at h ⊢
    rcases Value.failed_write h with ⟨hsame, hplace⟩ | hmade
    · refine .inl ⟨hsame, fun place n length he => ?_⟩
      obtain ⟨q, items, rfl, hlength, hitems⟩ := hplace place n length he
      exact ⟨items, hlength, hitems⟩
    · exact .inr hmade

/-- An empty mapping gets a key when an index below it is out of range. -/
theorem failed_set_makes_sequence_under_key :
    Value.write [] (.sequence []) (.mapping []) [.key "a"] =
      ⟨((Value.mapping []).set [.key "a", .index 65537] .null).tree, .ok ()⟩ := by
  have hfailed : ((Value.mapping []).set [.key "a", .index 65537] .null).result =
      .error (.outOfRange [.key "a"] 65537 0) := rfl
  rcases failed_set_keeps_tree_or_makes_sequence hfailed with
    ⟨-, hplace⟩ | ⟨-, place, n, rest, -, -, he, -, hwrite⟩
  · obtain ⟨items, -, hitems⟩ := hplace _ _ _ rfl
    cases hitems
  · cases he
    exact hwrite

/-- So a failed write is not all or nothing. -/
theorem failed_set_not_all_or_nothing :
    ¬ ∀ (root new : Value) (p : Path) (e : PathError),
      (root.set p new).result = .error e → (root.set p new).tree = root := by
  intro hall
  have hsame := hall (.mapping []) .null [.key "a", .index 65537] _ rfl
  cases hsame

end DocMatch
