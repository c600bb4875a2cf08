import DocMatch.Proofs.WriteStep
/-!
Writing and reading at one path.  What has been written is found there, of two writes the
second counts, and writing what is there changes nothing.  A path that ends after the last
item adds one item.
-/

namespace DocMatch

namespace Value

variable {v new : Value} {walked p : Path}

/-- Whether a write succeeds does not depend on what it writes. -/
theorem result_write_eq (w new v : Value) (walked p : Path) :
    (write walked w v p).result = (write walked new v p).result := by
  induction p generalizing v walked with
  | nil => rfl
  | cons s p ih =>
      rcases opens_or_refuses v s with ⟨before, put, hopens⟩ | ⟨error, hrefuses⟩
      · rw [write_of_opens hopens, write_of_opens hopens]
        exact ih _ _
      · rw [write_of_refuses hrefuses, write_of_refuses hrefuses]

/-- What has been written is found. -/
theorem get?_write (hp : .append ∉ p) (hok : (write walked new v p).result = .ok ()) :
    (write walked new v p).tree.get? p = some new := by
  induction p generalizing v walked with
  | nil => rfl
  | cons s p ih =>
      obtain ⟨hs, hrest⟩ := not_or.1 (mt List.mem_cons.2 hp)
      obtain ⟨before, put, hopens, hok⟩ := opens_of_write_ok hok
      rw [write_of_opens hopens, hopens.get?_put_self (Ne.symm hs)]
      exact ih hrest hok

/-- Of two writes the second counts, also when the first has failed. -/
theorem write_write (hp : .append ∉ p) (w new v : Value) (walked : Path) :
    write walked w (write walked new v p).tree p = write walked w v p := by
  induction p generalizing v walked with
  | nil => rfl
  | cons s p ih =>
      obtain ⟨hs, hrest⟩ := not_or.1 (mt List.mem_cons.2 hp)
      rcases opens_or_refuses v s with ⟨before, put, hopens⟩ | ⟨error, hrefuses⟩
      · have hagain := hopens.again (Ne.symm hs) (write (walked ++ [s]) new before p).tree
        rw [write_of_opens hopens, write_of_opens hagain, write_of_opens hopens, ih hrest]
      · rw [write_of_refuses hrefuses]
        simp only [write, opened_opened]

/-- Writing what is there changes nothing. -/
theorem write_of_locate? {u : Value} (h : v.locate? p = some u) (walked : Path) :
    write walked u v p = ⟨v, .ok ()⟩ := by
  induction p generalizing v walked with
  | nil =>
      cases h
      rfl
  | cons s p ih =>
      obtain ⟨child, put, hholds, h⟩ := holds_of_locate?_cons h
      rw [write_of_opens hholds.opens, ih h, hholds.put_self]

/-- A write after the last item adds one item to the sequence there, to an empty one if
there is nothing or a null. -/
theorem write_append (hp : .append ∉ p)
    (hok : (write walked new v (p ++ [.append])).result = .ok ()) :
    ∃ items, (v.get? p = some (.sequence items) ∨
        items = [] ∧ (v.get? p = none ∨ v.get? p = some .null)) ∧
      (write walked new v (p ++ [.append])).tree.get? p = some (.sequence (items ++ [new])) := by
  induction p generalizing v walked with
  | nil =>
      obtain ⟨before, put, hopens, -⟩ := opens_of_write_ok hok
      rw [List.nil_append, write_of_opens hopens]
      cases hopens with
      | @appended items h =>
          refine ⟨items, ?_, rfl⟩
          rcases eq_of_opened_eq_sequence h with rfl | ⟨rfl, rfl⟩
          · exact .inl rfl
          · exact .inr ⟨rfl, .inr rfl⟩
  | cons s p ih =>
      obtain ⟨hs, hrest⟩ := not_or.1 (mt List.mem_cons.2 hp)
      obtain ⟨before, put, hopens, hok⟩ := opens_of_write_ok hok
      obtain ⟨items, hbefore, hafter⟩ := ih hrest hok
      rw [List.cons_append, write_of_opens hopens, hopens.get?_put_self (Ne.symm hs)]
      refine ⟨items, ?_, hafter⟩
      rcases hopens.get?_before p with heq | ⟨hnone, rfl⟩
      · rwa [heq]
      · -- the step has made a null where nothing was, so there was no sequence below it
        rcases hbefore with hsequence | ⟨hitems, -⟩
        · cases eq_null_of_get?_null hsequence
        · exact .inr ⟨hitems, .inl hnone⟩

theorem Holds.replace?_cons {s : Segment} {x : Value} {put : Value → Value}
    (h : Holds v s x put) (p : Path) (new : Value) :
    v.replace? (s :: p) new = (x.replace? p new).map put := by
  cases h with
  | entry h => cases hx : x.replace? p new <;> simp [replace?, h, hx]
  | item h => cases hx : x.replace? p new <;> simp [replace?, h, hx]

theorem holds_of_replace? {s : Segment} {tree : Value}
    (h : v.replace? (s :: p) new = some tree) :
    ∃ x put child, Holds v s x put ∧ x.replace? p new = some child ∧ tree = put child := by
  cases v with
  | mapping entries =>
      cases s with
      | key k =>
          simp only [replace?, Option.pure_def, Option.bind_eq_bind, Option.bind_eq_some_iff,
            Option.some.injEq] at h
          obtain ⟨x, hx, child, hchild, rfl⟩ := h
          exact ⟨x, _, child, .entry hx, hchild, rfl⟩
      | _ => cases h
  | sequence items =>
      cases s with
      | index n =>
          simp only [replace?, Option.pure_def, Option.bind_eq_bind, Option.bind_eq_some_iff,
            Option.some.injEq] at h
          obtain ⟨x, hx, child, hchild, rfl⟩ := h
          exact ⟨x, _, child, .item hx, hchild, rfl⟩
      | _ => cases h
  | _ => cases h

end Value

/-- Writing and reading form a lens, and a write after the last item adds that item. -/
theorem set_get_lens (root : Value) {p : Path} (happend : .append ∉ p) :
    (p ≠ [] → ∀ v, (root.set p v).result = .ok () →
      (root.set p v).tree.get? p = some v ∧
        ∀ w, (root.set p v).tree.set p w = root.set p w ∧ (root.set p w).result = .ok ()) ∧
    (p ≠ [] → ∀ u, root.locate? p = some u → root.set p u = ⟨root, .ok ()⟩) ∧
    ∀ v, (root.set (p ++ [.append]) v).result = .ok () →
      ∃ items, (root.get? p = some (.sequence items) ∨
          items = [] ∧ (root.get? p = none ∨ root.get? p = some .null)) ∧
        (root.set (p ++ [.append]) v).tree.get? p = some (.sequence (items ++ [v])) := by
  refine ⟨fun hp v hok => ?_, fun hp u hu => ?_, fun v hok => ?_⟩
  · simp only [Value.set_of_ne_nil hp] at hok ⊢
    refine ⟨Value.get?_write happend hok, fun w => ⟨Value.write_write happend w v root [], ?_⟩⟩
    rw [Value.result_write_eq w v, hok]
  · rw [Value.set_of_ne_nil hp]
    exact Value.write_of_locate? hu []
  · have hp : p ++ [.append] ≠ [] := by simp
    rw [Value.set_of_ne_nil hp] at hok ⊢
    exact Value.write_append happend hok

/-- A value is written below a null, padded, and a second one after it. -/
theorem set_get_lens_below_null :
    (Value.null.set [.key "a", .index 1] (.bool true)).tree.get? [.key "a", .index 1] =
        some (.bool true) ∧
      ∃ items, (Value.null.set [.key "a", .append] (.bool true)).tree.get? [.key "a"] =
        some (.sequence (items ++ [.bool true])) := by
  refine ⟨((set_get_lens .null (by decide)).1 (by simp) _ rfl).1, ?_⟩
  obtain ⟨items, -, hitems⟩ :=
    (set_get_lens .null (p := [.key "a"]) (by decide)).2.2 (.bool true) rfl
  exact ⟨items, hitems⟩

end DocMatch
