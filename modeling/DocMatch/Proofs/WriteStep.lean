import DocMatch.Path.Update
import DocMatch.Proofs.Fields
/-!
One step of a write.  A write through a segment either opens the container it stands at
and goes on in one place of it, or it is refused.  What both do to the value is said here
once, in terms of the values one step below, and the walks build on it.
-/

namespace DocMatch

namespace Value

/-- The value one step below a mapping or a sequence. -/
def child? : Value → Segment → Option Value
  | .mapping entries, .key k => Fields.get? k entries
  | .sequence items, .index n => items[n]?
  | _, _ => none

variable {v before x : Value} {segment other : Segment} {put : Value → Value} {walked : Path}

theorem set_of_ne_nil {p : Path} (hp : p ≠ []) (root new : Value) :
    root.set p new = write [] new root p := by
  cases p with
  | nil => exact absurd rfl hp
  | cons segment rest => rfl

theorem locate?_cons (v : Value) (segment : Segment) (rest : Path) :
    v.locate? (segment :: rest) = (v.child? segment).bind fun child => child.locate? rest := by
  cases v <;> cases segment <;> rfl

theorem get?_cons (hv : ∀ e, v ≠ .element e) (segment : Segment) (rest : Path) :
    v.get? (segment :: rest) = (v.child? segment).bind fun child => child.get? rest := by
  cases v with
  | element e => exact absurd rfl (hv e)
  | mapping entries => cases segment <;> rfl
  | sequence items => cases segment <;> rfl
  | _ => rfl

theorem child?_append (v : Value) : v.child? .append = none := by
  cases v <;> rfl

theorem ne_append_of_child? (h : v.child? segment = some x) : segment ≠ .append := by
  rintro rfl
  rw [child?_append] at h
  cases h

theorem opened_of_ne_null (h : v ≠ .null) (segment : Segment) : v.opened segment = v := by
  cases v with
  | null => exact absurd rfl h
  | _ => rfl

theorem opened_ne_null (v : Value) (segment : Segment) : v.opened segment ≠ .null := by
  cases v <;> cases segment <;> simp [opened]

/-- A container made out of a null is empty. -/
theorem child?_opened (v : Value) (segment other : Segment) :
    (v.opened segment).child? other = v.child? other := by
  cases v with
  | null => cases segment <;> cases other <;> simp [opened, child?]
  | _ => rfl

theorem eq_of_opened_eq_sequence {items : List Value} (h : v.opened segment = .sequence items) :
    v = .sequence items ∨ items = [] ∧ v = .null := by
  by_cases hv : v = .null
  · subst hv
    cases segment with
    | key k => cases h
    | _ =>
        cases h
        exact .inr ⟨rfl, rfl⟩
  · rw [opened_of_ne_null hv] at h
    exact .inl h

theorem opened_opened (v : Value) (segment : Segment) :
    (v.opened segment).opened segment = v.opened segment :=
  opened_of_ne_null (opened_ne_null v segment) segment

/-- Opening a value changes nothing below it. -/
theorem get?_opened_cons (v : Value) (segment other : Segment) (rest : Path) :
    (v.opened segment).get? (other :: rest) = v.get? (other :: rest) := by
  cases v with
  | null => cases segment <;> cases other <;> rfl
  | _ => rfl

theorem get?_null_cons (segment : Segment) (rest : Path) :
    Value.null.get? (segment :: rest) = none := rfl

theorem eq_null_of_get?_null {p : Path} (h : Value.null.get? p = some x) : x = .null := by
  cases p with
  | nil => exact (Option.some.inj h).symm
  | cons segment rest => cases h

theorem opened_eq_element_iff (v : Value) (segment : Segment) {e : Element} :
    v.opened segment = .element e ↔ v = .element e := by
  cases v <;> cases segment <;> simp [opened]

/-- The items of a sequence, filled up with nulls to `n` items. -/
def filledTo (items : List Value) (n : Nat) : List Value :=
  items ++ List.replicate (n - items.length) .null

theorem length_filledTo {items : List Value} {n : Nat} (hn : items.length ≤ n) :
    (filledTo items n).length = n := by
  simp [filledTo, Nat.add_sub_cancel' hn]

/-- An item beside a new one after the padding is an old one, or a null where nothing was. -/
theorem getElem?_filledTo_append_of_ne {items : List Value} {n i : Nat} (hn : items.length ≤ n)
    (hne : i ≠ n) (y : Value) :
    (filledTo items n ++ [y])[i]? = items[i]? ∨
      items[i]? = none ∧ (filledTo items n ++ [y])[i]? = some .null := by
  rcases Nat.lt_or_gt_of_ne hne with hlt | hgt
  · rw [List.getElem?_append_left (by rwa [length_filledTo hn]), filledTo]
    rcases Nat.lt_or_ge i items.length with hold | hnew
    · exact .inl (List.getElem?_append_left hold)
    · refine .inr ⟨List.getElem?_eq_none hnew, ?_⟩
      rw [List.getElem?_append_right hnew, List.getElem?_replicate, if_pos (by omega)]
  · have hnone : items[i]? = none := List.getElem?_eq_none (by omega)
    left
    rw [hnone, List.getElem?_eq_none_iff, List.length_append, length_filledTo hn]
    exact hgt

/-- Whether a value is of the kind that a segment leads into. -/
def TakesSegment : Value → Segment → Prop
  | .mapping _, .key _ => True
  | .sequence _, .index _ => True
  | .sequence _, .append => True
  | _, _ => False

/-- A write through a segment goes on at the value `before`, and `put` stores what it makes
of that value. -/
inductive Opens (v : Value) : Segment → Value → (Value → Value) → Prop
  | entry {entries : Fields Value} {k : String} (h : v.opened (.key k) = .mapping entries) :
      Opens v (.key k) ((Fields.get? k entries).getD .null)
        fun child => .mapping (Fields.insert k child entries)
  | item {items : List Value} {n : Nat} (h : v.opened (.index n) = .sequence items)
      (hn : n < items.length) :
      Opens v (.index n) (items[n]?.getD .null) fun child => .sequence (items.set n child)
  | padded {items : List Value} {n : Nat} (h : v.opened (.index n) = .sequence items)
      (hn : items.length ≤ n) (hgap : n - items.length ≤ maxIndexGap) :
      Opens v (.index n) .null fun child => .sequence (filledTo items n ++ [child])
  | appended {items : List Value} (h : v.opened .append = .sequence items) :
      Opens v .append .null fun child => .sequence (items ++ [child])

/-- A write through a segment is refused with an error that names the place it stands at. -/
inductive Refuses (v : Value) : Segment → (Path → PathError) → Prop
  | gap {items : List Value} {n : Nat} (h : v.opened (.index n) = .sequence items)
      (hgap : maxIndexGap < n - items.length) :
      Refuses v (.index n) fun walked => .outOfRange walked n items.length
  | readOnly {e : Element} {segment : Segment} (h : v = .element e) :
      Refuses v segment fun walked => .readOnly walked .element
  | notAContainer {segment : Segment} (helement : ∀ e, v ≠ .element e)
      (hkind : ¬ (v.opened segment).TakesSegment segment) :
      Refuses v segment fun walked => .notAContainer walked v.kind

theorem write_of_opens (h : Opens v segment before put) (walked : Path) (new : Value)
    (rest : Path) :
    write walked new v (segment :: rest) =
      ⟨put (write (walked ++ [segment]) new before rest).tree,
        (write (walked ++ [segment]) new before rest).result⟩ := by
  cases h with
  | entry h => simp only [write, h]
  | item h hn => simp only [write, h, hn, if_true]
  | padded h hn hgap =>
      simp only [write, h, Nat.not_lt.2 hn, Nat.not_lt.2 hgap, if_false, filledTo]
  | appended h => simp only [write, h]

/-- Only a null is not kept by an opening, and a null takes every segment. -/
theorem opened_eq_of_not_takesSegment (h : ¬ (v.opened segment).TakesSegment segment) :
    v.opened segment = v := by
  apply opened_of_ne_null
  rintro rfl
  cases segment <;> exact h trivial

theorem write_of_refuses {error : Path → PathError} (h : Refuses v segment error)
    (walked : Path) (new : Value) (rest : Path) :
    write walked new v (segment :: rest) = ⟨v.opened segment, .error (error walked)⟩ := by
  cases h with
  | @gap items n h hgap =>
      have hn : ¬ n < items.length := by omega
      simp only [write, h, hn, if_false, hgap, if_true]
  | readOnly h =>
      subst h
      rfl
  | notAContainer helement hkind =>
      have hopened := opened_eq_of_not_takesSegment hkind
      rw [hopened] at hkind ⊢
      cases v with
      | element e => exact absurd rfl (helement e)
      | mapping entries =>
          cases segment with
          | key k => exact absurd trivial hkind
          | _ => rfl
      | sequence items =>
          cases segment with
          | key k => rfl
          | _ => exact absurd trivial hkind
      | null => exact absurd hopened (opened_ne_null _ _)
      | _ => rfl

/-- What one step of a write does: it opens the value, or it is refused and the walk ends. -/
theorem opens_or_refuses (v : Value) (segment : Segment) :
    (∃ before put, Opens v segment before put) ∨ ∃ error, Refuses v segment error := by
  by_cases hkind : (v.opened segment).TakesSegment segment
  · cases segment with
    | key k =>
        cases h : v.opened (.key k) with
        | mapping entries => exact .inl ⟨_, _, .entry h⟩
        | _ => simp [h, TakesSegment] at hkind
    | index n =>
        cases h : v.opened (.index n) with
        | sequence items =>
            rcases Nat.lt_or_ge n items.length with hn | hn
            · exact .inl ⟨_, _, .item h hn⟩
            · rcases Nat.lt_or_ge maxIndexGap (n - items.length) with hgap | hgap
              · exact .inr ⟨_, .gap h hgap⟩
              · exact .inl ⟨_, _, .padded h hn hgap⟩
        | _ => simp [h, TakesSegment] at hkind
    | append =>
        cases h : v.opened .append with
        | sequence items => exact .inl ⟨_, _, .appended h⟩
        | _ => simp [h, TakesSegment] at hkind
  · right
    by_cases helement : ∃ e, v = .element e
    · obtain ⟨e, he⟩ := helement
      exact ⟨_, .readOnly he⟩
    · exact ⟨_, .notAContainer (not_exists.1 helement) hkind⟩

/-- A write that succeeds opens the value it stands at. -/
theorem opens_of_write_ok {new : Value} {rest : Path}
    (h : (write walked new v (segment :: rest)).result = .ok ()) :
    ∃ before put, Opens v segment before put ∧
      (write (walked ++ [segment]) new before rest).result = .ok () := by
  rcases opens_or_refuses v segment with ⟨before, put, hopens⟩ | ⟨error, hrefuses⟩
  · rw [write_of_opens hopens] at h
    exact ⟨before, put, hopens, h⟩
  · rw [write_of_refuses hrefuses] at h
    cases h

/-- What a step through `segment` may make of a value: a mapping keeps its keys in their
order, with the key of the segment last if that is new, a sequence does not get shorter,
and anything else stays. -/
def GrowsInto (segment : Segment) : Value → Value → Prop
  | .mapping entries, .mapping entries' =>
      Fields.keys entries' = Fields.keys entries ∨
        ∃ k, segment = .key k ∧ k ∉ Fields.keys entries ∧
          Fields.keys entries' = Fields.keys entries ++ [k]
  | .sequence items, .sequence items' => items.length ≤ items'.length
  | v, w => w = v

theorem GrowsInto.refl (v : Value) (segment : Segment) : v.GrowsInto segment v := by
  cases v with
  | mapping entries => exact .inl rfl
  | sequence items => exact Nat.le_refl _
  | _ => rfl

namespace Opens

theorem not_element (h : Opens v segment before put) (e : Element) : v ≠ .element e := by
  intro hv
  have hopened := (opened_eq_element_iff v segment).2 hv
  cases h with
  | entry h => cases h.symm.trans hopened
  | item h _ => cases h.symm.trans hopened
  | padded h _ _ => cases h.symm.trans hopened
  | appended h => cases h.symm.trans hopened

theorem put_not_element (h : Opens v segment before put) (x : Value) (e : Element) :
    put x ≠ .element e := by
  cases h <;> simp

/-- The walk goes on at what is there, or at a null. -/
theorem before_eq (h : Opens v segment before put) :
    before = (v.child? segment).getD .null := by
  rw [← child?_opened v segment]
  cases h with
  | entry h => simp [h, child?]
  | item h _ => simp [h, child?]
  | padded h hn _ => simp [h, child?, List.getElem?_eq_none hn]
  | appended h => simp [child?_append]

theorem before_eq_of_child? (h : Opens v segment before put) (hx : v.child? segment = some x) :
    before = x := by
  rw [h.before_eq, hx, Option.getD_some]

theorem child?_of_ne_null (h : Opens v segment before put) (hbefore : before ≠ .null) :
    v.child? segment = some before := by
  rw [h.before_eq] at hbefore ⊢
  cases hchild : v.child? segment with
  | none => exact absurd (by rw [hchild, Option.getD_none]) hbefore
  | some x => rfl

/-- The walk goes on at a value in which the same is found as below the segment, but for a
null that it makes where nothing is. -/
theorem get?_before (h : Opens v segment before put) (rest : Path) :
    v.get? (segment :: rest) = before.get? rest ∨
      v.get? (segment :: rest) = none ∧ before = .null := by
  rw [Value.get?_cons h.not_element, h.before_eq]
  cases v.child? segment with
  | none => exact .inr ⟨rfl, rfl⟩
  | some x => exact .inl rfl

theorem get?_before_cons (h : Opens v segment before put) (other : Segment) (rest : Path) :
    v.get? (segment :: other :: rest) = before.get? (other :: rest) := by
  rcases h.get?_before (other :: rest) with heq | ⟨hnone, hnull⟩
  · exact heq
  · rw [hnone, hnull, get?_null_cons]

/-- What is stored is found under the segment, unless that names no place. -/
theorem child?_put_self (h : Opens v segment before put) (hsegment : segment ≠ .append)
    (x : Value) : (put x).child? segment = some x := by
  cases h with
  | entry h => exact Fields.get?_insert_self _ _ _
  | item h hn => simp [child?, hn]
  | padded h hn _ =>
      have hlength := length_filledTo hn
      simp only [child?]
      rw [List.getElem?_append_right (Nat.le_of_eq hlength), hlength, Nat.sub_self]
      rfl
  | appended h => exact absurd rfl hsegment

/-- A place other than the one stored to is as before, or it is a new item. -/
theorem child?_put_of_ne (h : Opens v segment before put) (hne : other ≠ segment) (y : Value) :
    (put y).child? other = v.child? other ∨
      v.child? other = none ∧ (segment = .append ∨ (put y).child? other = some .null) := by
  rw [← child?_opened v segment]
  cases h with
  | entry h =>
      left
      rw [h]
      cases other with
      | key k' => exact Fields.get?_insert_of_ne (fun heq => hne (congrArg _ heq)) _ _
      | _ => rfl
  | item h hn =>
      left
      rw [h]
      cases other with
      | index i => exact List.getElem?_set_ne (fun heq => hne (congrArg _ heq.symm))
      | _ => rfl
  | padded h hn _ =>
      rw [h]
      cases other with
      | index i =>
          have hindex := fun heq => hne (congrArg Segment.index heq)
          rcases getElem?_filledTo_append_of_ne hn hindex y with hold | ⟨hnone, hnull⟩
          · exact .inl hold
          · exact .inr ⟨hnone, .inr hnull⟩
      | _ => exact .inl rfl
  | @appended items h =>
      rw [h]
      cases other with
      | index i =>
          rcases Nat.lt_or_ge i items.length with hold | hnew
          · exact .inl (List.getElem?_append_left hold)
          · exact .inr ⟨List.getElem?_eq_none hnew, .inl rfl⟩
      | _ => exact .inl rfl

/-- Storing leaves what is in other places. -/
theorem child?_put_of_some (h : Opens v segment before put) (hne : other ≠ segment)
    (hx : v.child? other = some x) (y : Value) : (put y).child? other = some x := by
  rcases h.child?_put_of_ne hne y with heq | ⟨hnone, -⟩
  · rw [heq, hx]
  · rw [hnone] at hx
    cases hx

/-- Beside the place stored to, only nulls are new. -/
theorem child?_of_put (h : Opens v segment before put) (hsegment : segment ≠ .append)
    (hne : other ≠ segment) {y : Value} (hx : (put y).child? other = some x) :
    v.child? other = some x ∨ x = .null := by
  rcases h.child?_put_of_ne hne y with heq | ⟨-, happend | hnull⟩
  · exact .inl (heq ▸ hx)
  · exact absurd happend hsegment
  · rw [hnull] at hx
    exact .inr (Option.some.inj hx).symm

theorem get?_cons (h : Opens v segment before put) (other : Segment) (rest : Path) :
    v.get? (other :: rest) = (v.child? other).bind fun child => child.get? rest :=
  Value.get?_cons h.not_element other rest

theorem get?_put_cons (h : Opens v segment before put) (y : Value) (other : Segment)
    (rest : Path) :
    (put y).get? (other :: rest) = ((put y).child? other).bind fun child => child.get? rest :=
  Value.get?_cons (h.put_not_element y) other rest

/-- Below the segment itself, what is stored is what is found. -/
theorem get?_put_self (h : Opens v segment before put) (hsegment : segment ≠ .append)
    (y : Value) (rest : Path) : (put y).get? (segment :: rest) = y.get? rest := by
  rw [h.get?_put_cons, h.child?_put_self hsegment, Option.bind_some]

/-- A container that is there grows. -/
theorem growsInto_put (h : Opens v segment before put) (hv : v ≠ .null) (y : Value) :
    v.GrowsInto segment (put y) := by
  rw [← opened_of_ne_null hv segment]
  cases h with
  | @entry entries k h =>
      rw [h]
      simp only [GrowsInto, Fields.keys_insert]
      split
      · exact .inl rfl
      · exact .inr ⟨k, rfl, ‹_›, rfl⟩
  | item h _ => simp [h, GrowsInto]
  | padded h _ _ => simp [h, GrowsInto, filledTo]
  | appended h => simp [h, GrowsInto]

/-- A second write through the segment goes on at what the first has stored, and stores in
the same place. -/
theorem again (h : Opens v segment before put) (hsegment : segment ≠ .append) (x : Value) :
    Opens (put x) segment x put := by
  cases h with
  | @entry entries k h =>
      have hagain : Opens (.mapping (Fields.insert k x entries)) (.key k) _ _ := .entry rfl
      simp only [Fields.get?_insert_self, Fields.insert_insert] at hagain
      exact hagain
  | @item items n h hn =>
      have hagain : Opens (.sequence (items.set n x)) (.index n) _ _ :=
        .item rfl (by rwa [List.length_set])
      simp only [List.getElem?_set_self hn, List.set_set] at hagain
      exact hagain
  | @padded items n h hn _ =>
      have hlength := length_filledTo hn
      have hagain : Opens (.sequence (filledTo items n ++ [x])) (.index n) _ _ :=
        .item rfl (by simp [hlength])
      have hitem : (filledTo items n ++ [x])[n]? = some x := by
        rw [List.getElem?_append_right (Nat.le_of_eq hlength), hlength, Nat.sub_self]
        rfl
      have hput (y : Value) : (filledTo items n ++ [x]).set n y = filledTo items n ++ [y] := by
        rw [List.set_append_right _ _ (Nat.le_of_eq hlength), hlength, Nat.sub_self,
          List.set_cons_zero]
      simp only [hitem, hput] at hagain
      exact hagain
  | appended h => exact absurd rfl hsegment

/-- Storing what is there changes nothing. -/
theorem put_of_child? (h : Opens v segment before put) (hx : v.child? segment = some x) :
    put x = v := by
  have hv : v ≠ .null := by
    rintro rfl
    cases hx
  have hopened := opened_of_ne_null hv segment
  rw [← hopened] at hx ⊢
  cases h with
  | entry h =>
      rw [h] at hx ⊢
      exact congrArg Value.mapping (Fields.insert_of_get? hx)
  | item h hn =>
      rw [h] at hx ⊢
      obtain ⟨hindex, rfl⟩ := List.getElem?_eq_some_iff.1 hx
      exact congrArg Value.sequence (List.set_getElem_self hindex)
  | padded h hn _ =>
      rw [h] at hx
      obtain ⟨hindex, -⟩ := List.getElem?_eq_some_iff.1 hx
      exact absurd hindex (Nat.not_lt.2 hn)
  | appended h =>
      rw [child?_append] at hx
      cases hx

/-- Storing something else than what was there changes the value. -/
theorem put_ne (h : Opens v segment before put) (hx : x ≠ before) : put x ≠ v := by
  intro hput
  by_cases hsegment : segment = .append
  · subst hsegment
    cases h with
    | appended h =>
        subst hput
        have hitems := Value.sequence.inj h
        simp at hitems
  · have hchild := h.child?_put_self hsegment x
    rw [hput] at hchild
    exact hx (h.before_eq_of_child? hchild).symm

theorem put_ne_null (h : Opens v segment before put) (x : Value) : put x ≠ .null := by
  cases h <;> simp

end Opens

/-- Under a segment there is a value, and `put` stores another one in its place. -/
inductive Holds : Value → Segment → Value → (Value → Value) → Prop
  | entry {entries : Fields Value} {k : String} {x : Value} (h : Fields.get? k entries = some x) :
      Holds (.mapping entries) (.key k) x fun child => .mapping (Fields.insert k child entries)
  | item {items : List Value} {n : Nat} {x : Value} (h : items[n]? = some x) :
      Holds (.sequence items) (.index n) x fun child => .sequence (items.set n child)

theorem holds_of_child? (hx : v.child? segment = some x) : ∃ put, Holds v segment x put := by
  cases v with
  | mapping entries =>
      cases segment with
      | key k => exact ⟨_, .entry hx⟩
      | _ => cases hx
  | sequence items =>
      cases segment with
      | index n => exact ⟨_, .item hx⟩
      | _ => cases hx
  | _ => cases hx

/-- A lookup through mappings and sequences goes on at the value that is there. -/
theorem holds_of_locate?_cons {p : Path} (h : v.locate? (segment :: p) = some x) :
    ∃ child put, Holds v segment child put ∧ child.locate? p = some x := by
  rw [locate?_cons, Option.bind_eq_some_iff] at h
  obtain ⟨child, hchild, h⟩ := h
  obtain ⟨put, hholds⟩ := holds_of_child? hchild
  exact ⟨child, put, hholds, h⟩

namespace Holds

theorem child? (h : Holds v segment x put) : v.child? segment = some x := by
  cases h with
  | entry h => exact h
  | item h => exact h

/-- A write goes on at the value that is there. -/
theorem opens (h : Holds v segment x put) : Opens v segment x put := by
  cases h with
  | @entry entries k x h =>
      have hopens : Opens (.mapping entries) (.key k) _ _ := .entry rfl
      rwa [h] at hopens
  | @item items n x h =>
      have hopens : Opens (.sequence items) (.index n) _ _ :=
        .item rfl (List.getElem?_eq_some_iff.1 h).1
      rwa [h] at hopens

theorem locate?_cons (h : Holds v segment x put) (p : Path) :
    v.locate? (segment :: p) = x.locate? p := by
  rw [Value.locate?_cons, h.child?, Option.bind_some]

theorem get?_cons (h : Holds v segment x put) (p : Path) :
    v.get? (segment :: p) = x.get? p := by
  rw [h.opens.get?_cons, h.child?, Option.bind_some]

/-- Storing what is there changes nothing. -/
theorem put_self (h : Holds v segment x put) : put x = v :=
  h.opens.put_of_child? h.child?

/-- What is stored is there. -/
theorem again (h : Holds v segment x put) (y : Value) : ∃ put', Holds (put y) segment y put' :=
  holds_of_child? (h.opens.child?_put_self (ne_append_of_child? h.child?) y)

/-- Beside the place a value is stored to, nothing is changed. -/
theorem child?_put_of_ne (h : Holds v segment x put) (hne : other ≠ segment) (y : Value) :
    (put y).child? other = v.child? other := by
  cases h with
  | entry h =>
      cases other with
      | key k => exact Fields.get?_insert_of_ne (fun heq => hne (congrArg _ heq)) _ _
      | _ => rfl
  | item h =>
      cases other with
      | index i => exact List.getElem?_set_ne fun heq => hne (congrArg _ heq.symm)
      | _ => rfl

end Holds

end Value

end DocMatch
