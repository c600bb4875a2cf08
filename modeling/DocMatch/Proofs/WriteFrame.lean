import DocMatch.Proofs.WriteStep
/-!
What a write leaves as it was.  Whether it succeeds or fails, a write keeps everything
found at the paths that part from its own, and besides the value it makes nothing but
padding there; the mappings on its way keep their keys and the sequences their items.
-/

namespace DocMatch

namespace Path

/-- Whether two paths have a segment at the same place that differs, after the same start. -/
def PartsFrom (q p : Path) : Prop :=
  ∃ i s t, q.take i = p.take i ∧ q[i]? = some s ∧ p[i]? = some t ∧ s ≠ t

theorem not_nil_partsFrom (p : Path) : ¬ PartsFrom [] p := by
  rintro ⟨i, s, t, -, hs, -⟩
  cases hs

theorem not_partsFrom_nil (q : Path) : ¬ PartsFrom q [] := by
  rintro ⟨i, s, t, -, -, ht, -⟩
  cases ht

theorem cons_partsFrom_cons_iff {s t : Segment} {q p : Path} :
    PartsFrom (s :: q) (t :: p) ↔ s ≠ t ∨ s = t ∧ q.PartsFrom p := by
  constructor
  · rintro ⟨i, s', t', htake, hs, ht, hne⟩
    cases i with
    | zero =>
        cases hs
        cases ht
        exact .inl hne
    | succ i =>
        simp only [List.take_succ_cons, List.cons.injEq] at htake
        exact .inr ⟨htake.1, i, s', t', htake.2, hs, ht, hne⟩
  · rintro (hne | ⟨rfl, i, s', t', htake, hs, ht, hne⟩)
    · exact ⟨0, s, t, rfl, rfl, rfl, hne⟩
    · exact ⟨i + 1, s', t', by simp [htake], hs, ht, hne⟩

end Path

namespace Value

variable {v w new : Value} {walked p q : Path}

/-- What is found at a path that parts from the written one stays. -/
theorem get?_write_of_partsFrom (hparts : q.PartsFrom p) (hq : v.get? q = some w) :
    (write walked new v p).tree.get? q = some w := by
  induction p generalizing v q walked with
  | nil => exact absurd hparts (Path.not_partsFrom_nil q)
  | cons t p ih =>
      cases q with
      | nil => exact absurd hparts (Path.not_nil_partsFrom _)
      | cons s q =>
          rcases opens_or_refuses v t with ⟨before, put, hopens⟩ | ⟨error, hrefuses⟩
          · rw [hopens.get?_cons] at hq
            obtain ⟨child, hchild, hq⟩ := Option.bind_eq_some_iff.1 hq
            rw [write_of_opens hopens]
            rcases Path.cons_partsFrom_cons_iff.1 hparts with hne | ⟨rfl, hbelow⟩
            · rw [hopens.get?_put_cons, hopens.child?_put_of_some hne hchild]
              exact hq
            · rw [hopens.get?_put_self (ne_append_of_child? hchild),
                hopens.before_eq_of_child? hchild]
              exact ih hbelow hq
          · -- only a null is changed by a refused write, and nothing is found below one
            rw [write_of_refuses hrefuses, get?_opened_cons]
            exact hq

/-- Without an append, what is new beside the written path is padding. -/
theorem eq_null_of_get?_write (hp : .append ∉ p) (hparts : q.PartsFrom p)
    (hq : (write walked new v p).tree.get? q = some w) (hnone : v.get? q = none) :
    w = .null := by
  induction p generalizing v q walked with
  | nil => exact absurd hparts (Path.not_partsFrom_nil q)
  | cons t p ih =>
      obtain ⟨ht, hrest⟩ := not_or.1 (mt List.mem_cons.2 hp)
      cases q with
      | nil => exact absurd hparts (Path.not_nil_partsFrom _)
      | cons s q =>
          rcases opens_or_refuses v t with ⟨before, put, hopens⟩ | ⟨error, hrefuses⟩
          · rw [write_of_opens hopens] at hq
            rcases Path.cons_partsFrom_cons_iff.1 hparts with hne | ⟨rfl, hbelow⟩
            · rw [hopens.get?_put_cons] at hq
              obtain ⟨child, hchild, hq⟩ := Option.bind_eq_some_iff.1 hq
              rcases hopens.child?_of_put (Ne.symm ht) hne hchild with hold | rfl
              · rw [hopens.get?_cons, hold, Option.bind_some, hq] at hnone
                cases hnone
              · exact eq_null_of_get?_null hq
            · -- the paths go on below one place, where nothing was found before either
              rw [hopens.get?_put_self (Ne.symm ht)] at hq
              cases q with
              | nil => exact absurd hbelow (Path.not_nil_partsFrom p)
              | cons s' q => exact ih hrest hbelow hq (by rw [← hopens.get?_before_cons, hnone])
          · rw [write_of_refuses hrefuses, get?_opened_cons, hnone] at hq
            cases hq

/-- At a place on its way, a write does what a write of the rest of the path does there,
or nothing. -/
theorem get?_write_on_way {r : Path} (hr : v.get? r = some w) (walked : Path) (new : Value)
    (p : Path) :
    ∃ w', (write walked new v (r ++ p)).tree.get? r = some w' ∧
      (w' = w ∨ w' = (write (walked ++ r) new w p).tree) := by
  induction r generalizing v walked with
  | nil =>
      cases hr
      exact ⟨_, rfl, .inr (by simp)⟩
  | cons s r ih =>
      rw [List.cons_append]
      rcases opens_or_refuses v s with ⟨before, put, hopens⟩ | ⟨error, hrefuses⟩
      · rw [hopens.get?_cons] at hr
        obtain ⟨child, hchild, hr⟩ := Option.bind_eq_some_iff.1 hr
        rw [write_of_opens hopens, hopens.get?_put_self (ne_append_of_child? hchild),
          hopens.before_eq_of_child? hchild]
        obtain ⟨w', hw', hsame⟩ := ih hr (walked ++ [s])
        refine ⟨w', hw', hsame.imp_right fun heq => ?_⟩
        rw [heq, List.append_assoc, List.singleton_append]
      · rw [write_of_refuses hrefuses, get?_opened_cons]
        exact ⟨w, hr, .inl rfl⟩

/-- What is on the way of a write grows, and a null may become a container. -/
theorem growsInto_write_on_way {r rest : Path} {segment : Segment} (hr : v.get? r = some w)
    (hw : w ≠ .null) :
    ∃ w', (write walked new v (r ++ segment :: rest)).tree.get? r = some w' ∧
      w.GrowsInto segment w' := by
  obtain ⟨w', hw', rfl | hstep⟩ :=
    get?_write_on_way hr walked new (segment :: rest)
  · exact ⟨w', hw', .refl w' segment⟩
  · refine ⟨w', hw', ?_⟩
    rcases opens_or_refuses w segment with ⟨before, put, hopens⟩ | ⟨error, hrefuses⟩
    · rw [hstep, write_of_opens hopens]
      exact hopens.growsInto_put hw _
    · rw [hstep, write_of_refuses hrefuses, opened_of_ne_null hw]
      exact .refl w segment

/-- What a change at a path keeps of a tree. -/
structure KeepsData (root : Value) (p : Path) (tree : Value) : Prop where
  /-- What is found beside the path stays. -/
  kept : ∀ q w, q.PartsFrom p → root.get? q = some w → tree.get? q = some w
  /-- Without an append, what is new beside the path is padding. -/
  padding : .append ∉ p → ∀ q w, q.PartsFrom p → tree.get? q = some w → root.get? q = none →
    w = .null
  /-- What is on the way to the path only grows. -/
  way : ∀ r segment rest w, p = r ++ segment :: rest → root.get? r = some w → w ≠ .null →
    ∃ w', tree.get? r = some w' ∧ w.GrowsInto segment w'

end Value

/-- A write loses no data, whether it succeeds or fails. -/
theorem set_keeps_data (root new : Value) (p : Path) :
    root.KeepsData p (root.set p new).tree := by
  by_cases hp : p = []
  · subst hp
    refine ⟨fun q w hparts => ?_, fun _ q w hparts => ?_, fun r segment rest w hp => ?_⟩
    · exact absurd hparts (Path.not_partsFrom_nil q)
    · exact absurd hparts (Path.not_partsFrom_nil q)
    · simp at hp
  · rw [Value.set_of_ne_nil hp]
    refine ⟨fun q w hparts hq => ?_, fun happend q w hparts hq hnone => ?_, ?_⟩
    · exact Value.get?_write_of_partsFrom hparts hq
    · exact Value.eq_null_of_get?_write happend hparts hq hnone
    · rintro r segment rest w rfl hr hw
      exact Value.growsInto_write_on_way hr hw

/-- A write that goes on to fail in a new item keeps the item before it. -/
theorem failed_set_keeps_earlier_item :
    ((Value.mapping [("a", .sequence [.bool true])]).set [.key "a", .append, .index 65537]
      .null).tree.get? [.key "a", .index 0] = some (.bool true) :=
  (set_keeps_data _ _ _).kept _ _
    ⟨1, .index 0, .append, rfl, rfl, rfl, by decide⟩ rfl

end DocMatch
