import DocMatch.Proofs.ComposedPaths
import DocMatch.Proofs.Nodes
import DocMatch.Proofs.WriteFrame
import DocMatch.Proofs.WriteLens
/-!
What a removal takes out.  It is refused at the whole value and below an element, it leaves
everything as it is where the path leads nowhere, and else the container at the path but for its
last segment loses one entry or one item, and nothing else is changed.  A removal walks to that
container twice, so its agreement with one walk that does all is shown first.
-/

namespace DocMatch

namespace Value

variable {v w x parent after tree : Value} {put : Value → Value} {segment : Segment}
  {place p q whole : Path} {outcome : Outcome (Option Value)}

theorem Holds.entersElement_cons_iff (h : Holds v segment x put) :
    v.EntersElement (segment :: p) ↔ x.EntersElement p := by
  rw [Value.entersElement_cons_iff h.opens.not_element, h.child?]
  simp

/-- A lookup that has not entered an element can be taken in two parts. -/
theorem locate?_append (h : v.locate? place = some parent) (q : Path) :
    v.locate? (place ++ q) = parent.locate? q ∧ v.get? (place ++ q) = parent.get? q ∧
      (v.EntersElement (place ++ q) ↔ parent.EntersElement q) := by
  induction place generalizing v with
  | nil =>
      cases h
      exact ⟨rfl, rfl, Iff.rfl⟩
  | cons segment place ih =>
      obtain ⟨child, put, hholds, h⟩ := holds_of_locate?_cons h
      rw [List.cons_append, hholds.locate?_cons, hholds.get?_cons, hholds.entersElement_cons_iff]
      exact ih h

/-- Where a value has been overwritten, the new one is found. -/
theorem locate?_of_replace? (h : v.replace? place after = some tree) :
    tree.locate? place = some after := by
  induction place generalizing v tree with
  | nil =>
      cases h
      rfl
  | cons segment place ih =>
      obtain ⟨x, put, child, hholds, hchild, rfl⟩ := holds_of_replace? h
      obtain ⟨put', hafter⟩ := hholds.again child
      rw [hafter.locate?_cons]
      exact ih hchild

/-- An overwriting is seen at no path that parts from its own. -/
theorem get?_of_replace? (h : v.replace? place after = some tree) (hparts : q.PartsFrom place) :
    tree.get? q = v.get? q := by
  induction place generalizing v tree q with
  | nil => exact absurd hparts (Path.not_partsFrom_nil q)
  | cons segment place ih =>
      obtain ⟨x, put, child, hholds, hchild, rfl⟩ := holds_of_replace? h
      cases q with
      | nil => exact absurd hparts (Path.not_nil_partsFrom _)
      | cons other q =>
          rcases Path.cons_partsFrom_cons_iff.1 hparts with hne | ⟨rfl, hbelow⟩
          · rw [hholds.opens.get?_put_cons, hholds.child?_put_of_ne hne, hholds.opens.get?_cons]
          · obtain ⟨put', hafter⟩ := hholds.again child
            rw [hafter.get?_cons, hholds.get?_cons]
            exact ih hchild hbelow

theorem WellFormed.locate? (hv : v.WellFormed) (h : v.locate? place = some w) : w.WellFormed := by
  induction place generalizing v with
  | nil =>
      cases h
      exact hv
  | cons segment place ih =>
      obtain ⟨child, put, hholds, h⟩ := holds_of_locate?_cons h
      apply ih _ h
      cases hholds with
      | entry hentry => exact (wellFormed_mapping_iff.1 hv).2 _ (Fields.mem_of_get? hentry)
      | item hitem => exact wellFormed_sequence_iff.1 hv _ (List.mem_of_getElem? hitem)

/-- Whether a mapping becomes another one by the loss of the entry under a key, or a sequence by
the loss of the item at an index. -/
inductive LosesPart : Value → Segment → Value → Value → Prop
  | entry {before rest : Fields Value} {key : String} {w : Value}
      (hkey : key ∉ Fields.keys before) :
      LosesPart (.mapping (before ++ (key, w) :: rest)) (.key key) w (.mapping (before ++ rest))
  | item {before rest : List Value} {w : Value} :
      LosesPart (.sequence (before ++ w :: rest)) (.index before.length) w
        (.sequence (before ++ rest))

namespace LosesPart

theorem child? (h : parent.LosesPart segment w after) : parent.child? segment = some w := by
  cases h with
  | entry hkey => exact Fields.get?_append_cons hkey _ _
  | item => simp [Value.child?]

/-- Under the key of a lost entry there is nothing. -/
theorem gone (hparent : parent.WellFormed) {key : String}
    (h : parent.LosesPart (.key key) w after) :
    after.get? [.key key] = none ∧ ¬ after.EntersElement [.key key] := by
  cases h with
  | @entry before rest _ _ hkey =>
      have hnone : (Value.mapping (before ++ rest)).child? (.key key) = none :=
        (wellFormed_mapping_iff.1 hparent).1.get?_eq_none
      have helement : ∀ e, Value.mapping (before ++ rest) ≠ .element e := by simp
      constructor
      · rw [Value.get?_cons helement, hnone, Option.bind_none]
      · rw [entersElement_cons_iff helement, hnone]
        simp

end LosesPart

/-- Remove at the rest of the path `whole`, in one walk. -/
def erase (whole : Path) (current : Value) : Path → Outcome (Option Value)
  | [] => ⟨current, .error .rootPath⟩
  | [last] => removePart whole current last
  | segment :: rest =>
      match current, segment with
      | .mapping entries, .key k =>
          match Fields.get? k entries with
          | none => ⟨current, .ok none⟩
          | some child =>
              let child := erase whole child rest
              ⟨.mapping (Fields.insert k child.tree entries), child.result⟩
      | .sequence items, .index n =>
          match items[n]? with
          | none => ⟨current, .ok none⟩
          | some child =>
              let child := erase whole child rest
              ⟨.sequence (items.set n child.tree), child.result⟩
      | .element e, _ => ⟨.element e, .error (.readOnly whole .element)⟩
      | other, _ => ⟨other, .ok none⟩

theorem erase_element (whole : Path) (e : Element) (segment : Segment) (p : Path) :
    erase whole (.element e) (segment :: p) =
      ⟨.element e, .error (.readOnly whole .element)⟩ := by
  cases p <;> simp [erase, removePart]

theorem erase_of_child?_eq_none (hv : ∀ e, v ≠ .element e) (h : v.child? segment = none)
    (whole p : Path) : erase whole v (segment :: p) = ⟨v, .ok none⟩ := by
  cases v with
  | element e => exact absurd rfl (hv e)
  | mapping entries =>
      cases segment with
      | key key =>
          have hkey : Fields.get? key entries = none := h
          cases p <;> simp [erase, removePart, hkey, Fields.erase_of_get?_eq_none hkey]
      | _ => cases p <;> rfl
  | sequence items =>
      cases segment with
      | index n =>
          have hn : ¬ n < items.length := Nat.not_lt.2 (List.getElem?_eq_none_iff.1 h)
          cases p <;> simp [erase, removePart, hn]
      | _ => cases p <;> rfl
  | _ => cases p <;> rfl

/-- The end of a removal takes the part out of the container that holds it. -/
theorem removePart_of_holds (h : Holds v segment x put) (whole : Path) :
    ∃ after, v.LosesPart segment x after ∧ removePart whole v segment = ⟨after, .ok (some x)⟩ := by
  cases h with
  | entry h =>
      obtain ⟨before, rest, rfl, hbefore, herase⟩ := Fields.erase_of_get? h
      refine ⟨_, .entry hbefore, ?_⟩
      rw [removePart, h, herase]
  | @item items n x h =>
      obtain ⟨before, rest, rfl, rfl⟩ : ∃ before rest, items = before ++ x :: rest ∧
          before.length = n := by
        obtain ⟨hn, rfl⟩ := List.getElem?_eq_some_iff.1 h
        refine ⟨items.take n, items.drop (n + 1), ?_, List.length_take_of_le (Nat.le_of_lt hn)⟩
        rw [List.getElem_cons_drop, List.take_append_drop]
      refine ⟨_, .item, ?_⟩
      rw [removePart, if_pos (List.getElem?_eq_some_iff.1 h).1, h,
        List.eraseIdx_append_of_length_le (Nat.le_refl _), Nat.sub_self, List.eraseIdx_cons_zero]

theorem erase_cons_cons (h : Holds v segment x put) (whole : Path) (other : Segment) (p : Path) :
    erase whole v (segment :: other :: p) =
      ⟨put (erase whole x (other :: p)).tree, (erase whole x (other :: p)).result⟩ := by
  cases h with
  | entry h => simp [erase, h]
  | item h => simp [erase, h]

theorem crossedReadOnly_cons (hv : ∀ e, v ≠ .element e) (segment : Segment) (rest : Path) :
    v.crossedReadOnly (segment :: rest) =
      (v.child? segment).bind fun child => child.crossedReadOnly rest := by
  cases v with
  | element e => exact absurd rfl (hv e)
  | mapping entries => cases segment <;> rfl
  | sequence items => cases segment <;> rfl
  | _ => rfl

/-- What the walks find one step below, they find from the value. -/
theorem removeAt_cons (h : Holds v segment x put) (whole place : Path) (last : Segment) :
    removeAt whole v (segment :: place) last =
      ⟨put (removeAt whole x place last).tree, (removeAt whole x place last).result⟩ := by
  have hsame := h.put_self
  have hcrossed : v.crossedReadOnly (segment :: place) = x.crossedReadOnly place := by
    rw [crossedReadOnly_cons h.opens.not_element, h.child?, Option.bind_some]
  rw [removeAt, removeAt, hcrossed, h.locate?_cons]
  cases x.crossedReadOnly place with
  | some kind => rw [hsame]
  | none =>
      cases x.locate? place with
      | none => rw [hsame]
      | some parent =>
          simp only [h.replace?_cons]
          cases x.replace? place (removePart whole parent last).tree with
          | none => simp only [Option.map_none, Option.getD_none, hsame]
          | some tree => rfl

/-- The walks of a removal agree with the one walk at every prefix of the path: both stop at the
first element, both go missing at the same place, and both take out the same part. -/
theorem removeAt_eq_erase (whole : Path) (v : Value) (place : Path) (last : Segment) :
    removeAt whole v place last = erase whole v (place ++ [last]) := by
  induction place generalizing v with
  | nil => rfl
  | cons segment place ih =>
      by_cases hv : ∃ e, v = .element e
      · obtain ⟨e, rfl⟩ := hv
        rw [List.cons_append, erase_element]
        rfl
      · have hv' : ∀ e, v ≠ .element e := not_exists.1 hv
        cases hchild : v.child? segment with
        | none =>
            have hcrossed : v.crossedReadOnly (segment :: place) = none := by
              rw [crossedReadOnly_cons hv', hchild, Option.bind_none]
            have hlocate : v.locate? (segment :: place) = none := by
              rw [locate?_cons, hchild, Option.bind_none]
            rw [List.cons_append, erase_of_child?_eq_none hv' hchild, removeAt, hcrossed]
            simp only [hlocate]
        | some x =>
            obtain ⟨put, hholds⟩ := holds_of_child? hchild
            obtain ⟨other, rest, hrest⟩ : ∃ other rest, place ++ [last] = other :: rest :=
              List.exists_cons_of_ne_nil (by simp)
            rw [removeAt_cons hholds, ih, List.cons_append, hrest, erase_cons_cons hholds]

theorem remove_eq_erase (root : Value) (hp : p ≠ []) : root.remove p = erase p root p := by
  obtain ⟨place, last, rfl⟩ : ∃ place last, p = place ++ [last] :=
    ⟨p.dropLast, p.getLast hp, (List.dropLast_append_getLast hp).symm⟩
  simp only [remove, List.getLast?_concat, List.dropLast_concat, removeAt_eq_erase]

/-- What a removal at a path may do to a value. -/
inductive Removal (whole : Path) (v : Value) (p : Path) : Outcome (Option Value) → Prop
  | refused (h : v.EntersElement p) : Removal whole v p ⟨v, .error (.readOnly whole .element)⟩
  | nothing (helement : ¬ v.EntersElement p) (h : v.get? p = none) :
      Removal whole v p ⟨v, .ok none⟩
  | part {place : Path} {segment : Segment} {parent w after tree : Value}
      (hp : p = place ++ [segment]) (hparent : v.locate? place = some parent)
      (hloses : parent.LosesPart segment w after) (htree : v.replace? place after = some tree) :
      Removal whole v p ⟨tree, .ok (some w)⟩

/-- What is done one step below is done to the value. -/
theorem Removal.below (hholds : Holds v segment x put) (h : Removal whole x p outcome) :
    Removal whole v (segment :: p) ⟨put outcome.tree, outcome.result⟩ := by
  have hsame := hholds.put_self
  cases h with
  | refused h =>
      rw [hsame]
      exact .refused (hholds.entersElement_cons_iff.2 h)
  | nothing helement h =>
      rw [hsame]
      exact .nothing (mt hholds.entersElement_cons_iff.1 helement) ((hholds.get?_cons p).trans h)
  | @part place last parent w after tree hp hparent hloses htree =>
      have hplace : v.locate? (segment :: place) = some parent :=
        (hholds.locate?_cons place).trans hparent
      refine .part (by rw [hp, List.cons_append]) hplace hloses ?_
      rw [hholds.replace?_cons, htree, Option.map_some]

theorem removal_erase (whole : Path) (v : Value) (hp : p ≠ []) :
    Removal whole v p (erase whole v p) := by
  induction p generalizing v with
  | nil => exact absurd rfl hp
  | cons segment p ih =>
      by_cases hv : ∃ e, v = .element e
      · obtain ⟨e, rfl⟩ := hv
        rw [erase_element]
        exact .refused (entersElement_element e segment p)
      · have hv' : ∀ e, v ≠ .element e := not_exists.1 hv
        cases hchild : v.child? segment with
        | none =>
            rw [erase_of_child?_eq_none hv' hchild]
            apply Removal.nothing
            · rw [entersElement_cons_iff hv', hchild]
              simp
            · rw [get?_cons hv', hchild, Option.bind_none]
        | some x =>
            obtain ⟨put, hholds⟩ := holds_of_child? hchild
            cases p with
            | nil =>
                obtain ⟨after, hloses, hpart⟩ := removePart_of_holds hholds whole
                rw [erase, hpart]
                exact .part (List.nil_append _).symm rfl hloses rfl
            | cons other p =>
                rw [erase_cons_cons hholds]
                exact (ih x nofun).below hholds

/-- The part that has been taken out was found at the path. -/
theorem locate?_of_losesPart (hparent : v.locate? place = some parent)
    (hloses : parent.LosesPart segment w after) :
    v.locate? (place ++ [segment]) = some w := by
  rw [(locate?_append hparent _).1, locate?_cons, hloses.child?]
  rfl

/-- Whether a value differs from another one in this only, that the container at a path but for
its last segment has lost a part. -/
def LosesAt (v : Value) (p : Path) (w tree : Value) : Prop :=
  ∃ place segment parent after, p = place ++ [segment] ∧ v.get? place = some parent ∧
    parent.LosesPart segment w after ∧ v.replace? place after = some tree ∧
      ∀ q, q.PartsFrom place → tree.get? q = v.get? q

namespace Removal

theorem error_iff (h : Removal whole v p outcome) (e : PathError) :
    outcome.result = .error e ↔ v.EntersElement p ∧ e = .readOnly whole .element := by
  cases h with
  | refused h => simp [h, eq_comm]
  | nothing helement h => simp [helement]
  | part hp hparent hloses htree =>
      subst hp
      have helement := (locate?_eq_some_iff.1 (locate?_of_losesPart hparent hloses)).2
      simp [helement]

theorem tree_of_error (h : Removal whole v p outcome) {e : PathError}
    (hresult : outcome.result = .error e) : outcome.tree = v := by
  cases h with
  | refused h => rfl
  | nothing helement h => rfl
  | part hp hparent hloses htree => cases hresult

theorem of_none (h : Removal whole v p outcome) (hresult : outcome.result = .ok none) :
    outcome.tree = v ∧ v.get? p = none := by
  cases h with
  | refused h => cases hresult
  | nothing helement h => exact ⟨rfl, h⟩
  | part hp hparent hloses htree => cases hresult

theorem of_some (h : Removal whole v p outcome) (hresult : outcome.result = .ok (some w)) :
    v.get? p = some w ∧ v.LosesAt p w outcome.tree := by
  cases h with
  | refused h => cases hresult
  | nothing helement h => cases hresult
  | part hp hparent hloses htree =>
      cases hresult
      subst hp
      refine ⟨(locate?_eq_some_iff.1 (locate?_of_losesPart hparent hloses)).1, ?_⟩
      exact ⟨_, _, _, _, rfl, (locate?_eq_some_iff.1 hparent).1, hloses, htree,
        fun q => get?_of_replace? htree⟩

/-- After a removal under a key nothing is found there, and no element is on the way. -/
theorem gone {key : String} {removed : Option Value} (hv : v.WellFormed)
    (hp : p = place ++ [.key key]) (h : Removal whole v p outcome)
    (hresult : outcome.result = .ok removed) :
    outcome.tree.get? p = none ∧ ¬ outcome.tree.EntersElement p := by
  cases h with
  | refused h => cases hresult
  | nothing helement h => exact ⟨h, helement⟩
  | part hp' hparent hloses htree =>
      obtain ⟨rfl, hlast⟩ := List.append_inj' (hp.symm.trans hp') rfl
      cases hlast
      obtain ⟨-, hget, henters⟩ := locate?_append (locate?_of_replace? htree) [.key key]
      rw [hp, hget, henters]
      exact hloses.gone (hv.locate? hparent)

/-- Where there is nothing, a removal changes nothing. -/
theorem eq_of_get?_eq_none (h : Removal whole v p outcome) (hnone : v.get? p = none)
    (helement : ¬ v.EntersElement p) : outcome = ⟨v, .ok none⟩ := by
  cases h with
  | refused h => exact absurd h helement
  | nothing _ _ => rfl
  | part hp hparent hloses htree =>
      subst hp
      rw [(locate?_eq_some_iff.1 (locate?_of_losesPart hparent hloses)).1] at hnone
      cases hnone

end Removal

end Value

/-- A removal takes out what a lookup finds.  It is refused at the whole value and below an
element only and then changes nothing, and it changes nothing either where nothing is found.
Where no key occurs twice, what has been taken out under a key is gone. -/
theorem remove_takes_out_found (root : Value) (p : Path) :
    (∀ e, (root.remove p).result = .error e ↔
      p = [] ∧ e = .rootPath ∨ root.EntersElement p ∧ e = .readOnly p .element) ∧
    (∀ e, (root.remove p).result = .error e → (root.remove p).tree = root) ∧
    ((root.remove p).result = .ok none → (root.remove p).tree = root ∧ root.get? p = none) ∧
    (∀ w, (root.remove p).result = .ok (some w) →
      root.get? p = some w ∧ root.LosesAt p w (root.remove p).tree) ∧
    (root.WellFormed → ∀ place key removed, p = place ++ [.key key] →
      (root.remove p).result = .ok removed →
        (root.remove p).tree.get? p = none ∧
          (root.remove p).tree.remove p = ⟨(root.remove p).tree, .ok none⟩) := by
  by_cases hp : p = []
  · subst hp
    have hrefused : root.remove [] = ⟨root, .error .rootPath⟩ := rfl
    rw [hrefused]
    refine ⟨fun e => ?_, fun _ _ => rfl, nofun, nofun, nofun⟩
    simp [Value.not_entersElement_nil, eq_comm]
  · have h := Value.removal_erase p root hp
    rw [Value.remove_eq_erase root hp]
    refine ⟨fun e => ?_, fun e => h.tree_of_error, h.of_none, fun w => h.of_some, ?_⟩
    · rw [h.error_iff]
      simp [hp]
    · intro hroot place key removed hplace hresult
      obtain ⟨hnone, helement⟩ := h.gone hroot hplace hresult
      rw [Value.remove_eq_erase _ hp]
      exact ⟨hnone, (Value.removal_erase p _ hp).eq_of_get?_eq_none hnone helement⟩

/-- One of two entries is taken out, and no attribute of an element can be. -/
theorem remove_takes_out_found_entry :
    let root := Value.mapping [("a", .mapping [("b", .bool true), ("c", .null)]),
      ("d", .element ⟨"r", [("e", "f")], []⟩)]
    root.LosesAt [.key "a", .key "b"] (.bool true) (root.remove [.key "a", .key "b"]).tree ∧
      (root.remove [.key "a", .key "b"]).tree.get? [.key "a", .key "b"] = none ∧
      (root.remove [.key "d", .key "@e"]).tree = root := by
  intro root
  obtain ⟨-, -, -, htaken, hgone⟩ := remove_takes_out_found root [.key "a", .key "b"]
  have hroot : root.WellFormed := by
    simp [root, Value.WellFormed, Value.WellFormedEntries, Element.WellFormed,
      Element.WellFormedChildren, Fields.Distinct, Fields.keys]
  refine ⟨(htaken _ rfl).2, (hgone hroot [.key "a"] "b" _ rfl rfl).1, ?_⟩
  exact (remove_takes_out_found root [.key "d", .key "@e"]).2.1
    (.readOnly [.key "d", .key "@e"] .element) rfl

end DocMatch
