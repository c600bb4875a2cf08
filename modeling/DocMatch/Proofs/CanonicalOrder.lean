import DocMatch.KeyOrder
import DocMatch.Proofs.ComposedPaths
import DocMatch.Proofs.Reordering
/-!
Keys in the order of a reference.  One mapping gets the shared keys in the order of the reference
and then its own others, with the entries it had.  In a whole document this happens wherever a
mapping lies opposite a mapping, nothing else changes at any place, and doing it again changes
nothing at all.
-/

namespace DocMatch

namespace KeyOrder

/-- Keys in the order of reference keys: the shared ones in the order of the reference, then the
others in their own. -/
def canonicalKeys (keys reference : List String) : List String :=
  reference.filter (· ∈ keys) ++ keys.filter (· ∉ reference)

/-- Keys in the order that the value opposite asks for; only a mapping asks for one. -/
def keysOpposite (keys : List String) : Option Value → List String
  | some (.mapping reference) => canonicalKeys keys (Fields.keys reference)
  | _ => keys

/-- What becomes of one node, given the value opposite.  A mapping keeps its keys, in the order
asked for, a sequence its length, and any other value stays as it is. -/
def NodeOrdered (opposite : Option Value) : Value → Value → Prop
  | .mapping entries, after => ∃ others, after = .mapping others ∧
      Fields.keys others = keysOpposite (Fields.keys entries) opposite ∧
      (Fields.keys others).Perm (Fields.keys entries)
  | .sequence items, after => ∃ others, after = .sequence others ∧ others.length = items.length
  | v, after => after = v

/-- A value in the order of the value opposite, if there is one. -/
def orderedLike (v : Value) : Option Value → Value
  | some reference => deepLike v reference
  | none => v

section Mappings

variable {α β : Type} {source : Fields α} {reference : Fields β}

theorem canonicalKeys_nodup {keys others : List String} (h : keys.Nodup) (hothers : others.Nodup) :
    (canonicalKeys keys others).Nodup := by
  rw [canonicalKeys, List.nodup_append']
  refine ⟨hothers.filter _, h.filter _, ?_⟩
  intro key hshared hrest
  exact of_decide_eq_true (List.mem_filter.1 hrest).2 (List.mem_filter.1 hshared).1

theorem mem_canonicalKeys {keys others : List String} {key : String} :
    key ∈ canonicalKeys keys others ↔ key ∈ keys := by
  by_cases h : key ∈ others <;> simp [canonicalKeys, h]

theorem canonicalKeys_perm {keys others : List String} (h : keys.Nodup) (hothers : others.Nodup) :
    (canonicalKeys keys others).Perm keys :=
  (List.perm_ext_iff_of_nodup (canonicalKeys_nodup h hothers) h).2 fun _ => mem_canonicalKeys

/-- The entries that are looked up under the keys of the reference have those of its keys that
the source has. -/
theorem keys_filterMap_get? (source : Fields α) (reference : Fields β) :
    Fields.keys (reference.filterMap fun entry =>
      (Fields.get? entry.1 source).map (entry.1, ·)) = reference.keys.filter (· ∈ source.keys) := by
  induction reference with
  | nil => rfl
  | cons entry rest ih =>
      rw [Fields.keys] at ih
      have hshared : entry.1 ∈ source.keys ↔ (Fields.get? entry.1 source).isSome = true :=
        Fields.get?_isSome_iff.symm
      change List.map Prod.fst _ = (entry.1 :: Fields.keys rest).filter _
      cases hget : Fields.get? entry.1 source with
      | none =>
          rw [hget] at hshared
          rw [List.filterMap_cons_none (by rw [hget]; rfl), ih, List.filter_cons_of_neg]
          simp [hshared]
      | some v =>
          rw [hget] at hshared
          rw [List.filterMap_cons_some (by rw [hget]; rfl), List.map_cons, ih,
            List.filter_cons_of_pos]
          simp [hshared]

theorem not_contains_eq (key : String) (fields : Fields β) :
    (!Fields.contains key fields) = decide (key ∉ fields.keys) := by
  rw [Bool.eq_iff_iff, decide_eq_true_iff, ← Fields.get?_isSome_iff, Fields.contains]
  simp

theorem keys_like (source : Fields α) (reference : Fields β) :
    (like source reference).keys = canonicalKeys source.keys reference.keys := by
  have hrest : Fields.keys (source.filter fun entry => !Fields.contains entry.1 reference) =
      source.keys.filter (· ∉ reference.keys) := by
    simp only [not_contains_eq, Fields.keys, List.filter_map, Function.comp_def]
  rw [like, Fields.keys, List.map_append, canonicalKeys, ← hrest,
    ← keys_filterMap_get? source reference]
  rfl

theorem distinct_like (hsource : source.Distinct) (hreference : reference.Distinct) :
    (like source reference).Distinct := by
  rw [Fields.Distinct, keys_like]
  exact canonicalKeys_nodup hsource hreference

theorem mem_like (hsource : source.Distinct) {entry : String × α} :
    entry ∈ like source reference ↔ entry ∈ source := by
  have hlookup : (∃ other ∈ reference,
      (Fields.get? other.1 source).map (other.1, ·) = some entry) ↔
      entry ∈ source ∧ entry.1 ∈ reference.keys := by
    constructor
    · rintro ⟨other, hother, hget⟩
      obtain ⟨v, hv, rfl⟩ := Option.map_eq_some_iff.1 hget
      exact ⟨Fields.mem_of_get? hv, List.mem_map_of_mem hother⟩
    · rintro ⟨hentry, hkey⟩
      obtain ⟨other, hother, heq⟩ := List.mem_map.1 hkey
      refine ⟨other, hother, ?_⟩
      rw [heq, Fields.get?_of_mem hsource hentry]
      rfl
  rw [like, List.mem_append, List.mem_filterMap, hlookup, List.mem_filter, not_contains_eq,
    decide_eq_true_iff, ← and_or_left, and_iff_left (em _)]

/-- Reordering loses no entry and adds none. -/
theorem like_perm (hsource : source.Distinct) (hreference : reference.Distinct) :
    (like source reference).Perm source :=
  (List.perm_ext_iff_of_nodup (List.Nodup.of_map _ (distinct_like hsource hreference))
    (List.Nodup.of_map _ hsource)).2 fun _ => mem_like hsource

theorem get?_like (hsource : source.Distinct) (hreference : reference.Distinct) (key : String) :
    Fields.get? key (like source reference) = Fields.get? key source :=
  Fields.get?_of_perm (distinct_like hsource hreference) (like_perm hsource hreference) key

/-- A mapping that is in canonical order stays as it is. -/
theorem like_like (hsource : source.Distinct) (hreference : reference.Distinct) :
    like (like source reference) reference = like source reference := by
  have hshared : (like source reference).filter (fun entry =>
      !Fields.contains entry.1 reference) =
      source.filter fun entry => !Fields.contains entry.1 reference := by
    -- what was looked up under keys of the reference is dropped, and the rest is kept as a whole
    have hdropped : ∀ entry ∈ reference.filterMap (fun entry =>
        (Fields.get? entry.1 source).map (entry.1, ·)),
        ¬ (!Fields.contains entry.1 reference) = true := by
      intro entry hentry
      obtain ⟨other, hother, hget⟩ := List.mem_filterMap.1 hentry
      obtain ⟨v, -, rfl⟩ := Option.map_eq_some_iff.1 hget
      rw [not_contains_eq, decide_eq_true_iff, not_not]
      exact List.mem_map_of_mem hother
    rw [like, List.filter_append, List.filter_eq_nil_iff.2 hdropped, List.nil_append,
      List.filter_filter]
    simp only [Bool.and_self]
  calc like (like source reference) reference
      = reference.filterMap (fun entry =>
          (Fields.get? entry.1 (like source reference)).map (entry.1, ·)) ++
        (like source reference).filter fun entry => !Fields.contains entry.1 reference := rfl
    _ = like source reference := by
      rw [hshared]
      simp only [get?_like hsource hreference]
      rfl

end Mappings

section Documents

variable {source reference : Fields Value}

theorem entriesLike_eq_map (source reference : Fields Value) :
    entriesLike source reference =
      source.map fun entry => (entry.1, orderedLike entry.2 (Fields.get? entry.1 reference)) := by
  induction source with
  | nil => rfl
  | cons entry rest ih =>
      rw [entriesLike, ih, List.map_cons]
      cases Fields.get? entry.1 reference <;> rfl

theorem keys_entriesLike (source reference : Fields Value) :
    Fields.keys (entriesLike source reference) = source.keys := by
  rw [entriesLike_eq_map]
  simp [Fields.keys]

theorem distinct_entriesLike (hsource : source.Distinct) :
    Fields.Distinct (entriesLike source reference) := by
  rwa [Fields.Distinct, keys_entriesLike]

theorem get?_entriesLike (source reference : Fields Value) (key : String) :
    Fields.get? key (entriesLike source reference) =
      (Fields.get? key source).map fun v => orderedLike v (Fields.get? key reference) := by
  rw [entriesLike_eq_map]
  induction source with
  | nil => rfl
  | cons entry rest ih =>
      rw [List.map_cons, Fields.get?, Fields.get?, ih]
      by_cases hkey : entry.1 = key
      · rw [if_pos hkey, if_pos hkey, hkey]
        rfl
      · rw [if_neg hkey, if_neg hkey]

theorem getElem?_itemsLike (source reference : List Value) (i : Nat) :
    (itemsLike source reference)[i]? = source[i]?.map fun v => orderedLike v reference[i]? := by
  induction source generalizing reference i with
  | nil => simp [itemsLike]
  | cons v rest ih =>
      cases reference with
      | nil => cases h : (v :: rest)[i]? <;> simp [itemsLike, orderedLike, h]
      | cons r others =>
          cases i with
          | zero => simp [itemsLike, orderedLike]
          | succ i => simp [itemsLike, ih]

theorem length_itemsLike (source reference : List Value) :
    (itemsLike source reference).length = source.length := by
  induction source generalizing reference with
  | nil => simp [itemsLike]
  | cons v rest ih => cases reference <;> simp [itemsLike, ih]

/-- One step below, values are reordered like those one step below the reference. -/
theorem child?_deepLike {s r : Value} (hs : s.WellFormed) (hr : r.WellFormed) (segment : Segment) :
    (deepLike s r).child? segment =
      (s.child? segment).map fun v => orderedLike v (r.child? segment) := by
  cases s with
  | mapping source =>
      obtain ⟨hsource, -⟩ := Value.wellFormed_mapping_iff.1 hs
      cases r with
      | mapping reference =>
          obtain ⟨hreference, -⟩ := Value.wellFormed_mapping_iff.1 hr
          cases segment with
          | key key =>
              rw [deepLike, Value.child?, get?_like (distinct_entriesLike hsource) hreference]
              exact get?_entriesLike source reference key
          | _ => rfl
      | _ => cases segment <;> simp [deepLike, Value.child?, orderedLike]
  | sequence source =>
      cases r with
      | sequence reference =>
          cases segment with
          | index i => exact getElem?_itemsLike source reference i
          | _ => rfl
      | _ => cases segment <;> simp [deepLike, Value.child?, orderedLike]
  | _ => rfl

/-- A value without a mapping opposite stays as it is, and so does one that is no mapping. -/
theorem nodeOrdered_self {opposite : Option Value} {v : Value}
    (h : (∀ entries, v ≠ .mapping entries) ∨ ∀ reference, opposite ≠ some (.mapping reference)) :
    NodeOrdered opposite v v := by
  cases v with
  | mapping entries =>
      have hopposite := h.resolve_left fun hv => hv entries rfl
      refine ⟨entries, rfl, ?_, .refl _⟩
      unfold keysOpposite
      split
      · exact absurd rfl (hopposite _)
      · rfl
  | sequence items => exact ⟨items, rfl, rfl⟩
  | _ => rfl

/-- What becomes of the value itself. -/
theorem nodeOrdered_deepLike {s r : Value} (hs : s.WellFormed) (hr : r.WellFormed) :
    NodeOrdered (some r) s (deepLike s r) := by
  cases s with
  | mapping source =>
      cases r with
      | mapping reference =>
          obtain ⟨hsource, -⟩ := Value.wellFormed_mapping_iff.1 hs
          obtain ⟨hreference, -⟩ := Value.wellFormed_mapping_iff.1 hr
          refine ⟨_, rfl, ?_, ?_⟩
          · rw [keys_like, keys_entriesLike]
            rfl
          · rw [keys_like, keys_entriesLike]
            exact canonicalKeys_perm hsource hreference
      | _ => exact nodeOrdered_self (.inr (by simp))
  | sequence source =>
      cases r with
      | sequence reference => exact ⟨_, rfl, length_itemsLike source reference⟩
      | _ => exact ⟨_, rfl, rfl⟩
  | _ => rfl

theorem select?_ne_mapping (e : Element) (p : Path) (entries : Fields Value) :
    e.select? p ≠ some (.mapping entries) := by
  have hterminal : ∀ (v : Value) (rest : Path), v.isContainer = false →
      Element.terminal v rest ≠ some (.mapping entries) := by
    intro v rest hv h
    rw [Element.terminal, Option.ite_none_right_eq_some] at h
    cases h.2
    cases hv
  induction e, p using Element.select?.induct with
  | case1 e => simp [Element.select?]
  | case2 e rest =>
      rw [Element.select?_text]
      exact hterminal _ _ (Element.isContainer_ofString? _)
  | case3 e key rest _ name hname =>
      rw [Element.select?_of_attributeKey? hname]
      intro h
      obtain ⟨value, -, hvalue⟩ := Option.bind_eq_some_iff.1 h
      exact hterminal _ _ rfl hvalue
  | case4 e key htext hattribute n rest ih =>
      rw [Element.select?_number ⟨htext, hattribute⟩]
      intro h
      obtain ⟨child, -, hchild⟩ := Option.bind_eq_some_iff.1 h
      exact ih child hchild
  | case5 e key htext hattribute rest hindex ih =>
      have hnumber : ¬ Path.StartsWithIndex rest := by
        rintro ⟨n, after, hstart⟩
        exact hindex n after hstart
      rw [Element.select?_name ⟨htext, hattribute⟩ hnumber]
      intro h
      obtain ⟨child, -, hchild⟩ := Option.bind_eq_some_iff.1 h
      exact ih child hchild
  | case6 e n rest ih =>
      rw [Element.select?]
      intro h
      obtain ⟨child, -, hchild⟩ := Option.bind_eq_some_iff.1 h
      exact ih child hchild
  | case7 e rest => simp [Element.select?]

theorem wellFormed_child? {v child : Value} {segment : Segment} (hv : v.WellFormed)
    (h : v.child? segment = some child) : child.WellFormed := by
  cases v with
  | mapping entries =>
      cases segment with
      | key key => exact (Value.wellFormed_mapping_iff.1 hv).2 _ (Fields.mem_of_get? h)
      | _ => cases h
  | sequence items =>
      cases segment with
      | index i => exact Value.wellFormed_sequence_iff.1 hv _ (List.mem_of_getElem? h)
      | _ => cases h
  | _ => cases h

/-- Where no mapping is opposite, nothing is in another order. -/
theorem get?_ordered_self {opposite : Option Value} {v : Value} {p : Path}
    (h : (∀ entries, v.get? p ≠ some (.mapping entries)) ∨
      ∀ reference, opposite ≠ some (.mapping reference)) :
    Option.Rel (NodeOrdered opposite) (v.get? p) (v.get? p) := by
  cases hget : v.get? p with
  | none => exact .none
  | some w =>
      rw [hget] at h
      exact .some (nodeOrdered_self (h.imp_left fun hne entries hw => hne entries (hw ▸ rfl)))

/-- At every place a document is in the order of what the reference has at that place. -/
theorem get?_deepLike {s r : Value} (hs : s.WellFormed) (hr : r.WellFormed) (p : Path) :
    Option.Rel (NodeOrdered (r.get? p)) (s.get? p) ((deepLike s r).get? p) := by
  induction p generalizing s r with
  | nil => exact .some (nodeOrdered_deepLike hs hr)
  | cons segment p ih =>
      by_cases helement : ∃ e, s = .element e
      · obtain ⟨e, rfl⟩ := helement
        refine get?_ordered_self (.inl fun entries => ?_)
        rw [Value.get?_element]
        exact select?_ne_mapping e _ entries
      have hs' : ∀ e, s ≠ .element e := not_exists.1 helement
      have hdeep : ∀ e, deepLike s r ≠ .element e := by
        intro e h
        cases s <;> cases r <;> simp_all [deepLike]
      rw [Value.get?_cons hs', Value.get?_cons hdeep, child?_deepLike hs hr]
      cases hchild : s.child? segment with
      | none => exact .none
      | some v =>
          cases hopposite : r.child? segment with
          | some w =>
              have hr' : ∀ e, r ≠ .element e := by
                rintro e rfl
                cases hopposite
              rw [Value.get?_cons hr', hopposite]
              exact ih (wellFormed_child? hs hchild) (wellFormed_child? hr hopposite)
          | none =>
              refine get?_ordered_self (.inr fun reference h => ?_)
              by_cases hr' : ∃ e, r = .element e
              · obtain ⟨e, rfl⟩ := hr'
                exact select?_ne_mapping e _ reference (Value.get?_element e _ ▸ h)
              · rw [Value.get?_cons (not_exists.1 hr'), hopposite] at h
                cases h

theorem orderedLike_orderedLike {v : Value} {opposite : Option Value}
    (h : ∀ r, opposite = some r → deepLike (deepLike v r) r = deepLike v r) :
    orderedLike (orderedLike v opposite) opposite = orderedLike v opposite := by
  cases opposite with
  | none => rfl
  | some r => exact h r rfl

/-- Ordering like a reference once more changes nothing. -/
theorem deepLike_deepLike {s : Value} (hs : s.WellFormed) :
    ∀ {r : Value}, r.WellFormed → deepLike (deepLike s r) r = deepLike s r := by
  induction s using Value.induct with
  | leaf v hv =>
      intro r _
      cases v with
      | sequence items => cases hv
      | mapping entries => cases hv
      | _ => rfl
  | element e => exact fun _ => rfl
  | sequence items ih =>
      intro r hr
      cases r with
      | sequence reference =>
          rw [deepLike, deepLike]
          congr 1
          apply List.ext_getElem?
          intro i
          rw [getElem?_itemsLike, getElem?_itemsLike, Option.map_map]
          refine Option.map_congr fun v hv => orderedLike_orderedLike fun w hw => ?_
          have hmem := List.mem_of_getElem? hv
          exact ih v hmem (Value.wellFormed_sequence_iff.1 hs v hmem)
            (Value.wellFormed_sequence_iff.1 hr w (List.mem_of_getElem? hw))
      | _ => rfl
  | mapping entries ih =>
      intro r hr
      cases r with
      | mapping reference =>
          obtain ⟨hdistinct, hvalues⟩ := Value.wellFormed_mapping_iff.1 hs
          obtain ⟨hreference, hreferences⟩ := Value.wellFormed_mapping_iff.1 hr
          have hentries : entriesLike (like (entriesLike entries reference) reference) reference =
              like (entriesLike entries reference) reference := by
            rw [entriesLike_eq_map (like _ _)]
            refine (List.map_congr_left fun entry hentry => ?_).trans (List.map_id _)
            rw [mem_like (distinct_entriesLike hdistinct), entriesLike_eq_map] at hentry
            obtain ⟨old, hold, rfl⟩ := List.mem_map.1 hentry
            refine Prod.ext rfl (orderedLike_orderedLike fun w hw => ?_)
            exact ih old hold (hvalues old hold) (hreferences _ (Fields.mem_of_get? hw))
          rw [deepLike, deepLike, hentries, like_like (distinct_entriesLike hdistinct) hreference]
      | _ => rfl

end Documents

end KeyOrder

open KeyOrder (like deepLike canonicalKeys NodeOrdered)

/-- What ordering like a reference does.  A mapping gets the keys it shares with the reference in
the order of the reference and then its others in their own, with exactly its entries.  In a
document this happens to every mapping opposite a mapping; at every place there is a value of the
same kind as before, with the same keys or as many items, and what has no parts is the same.  A
document that is in order already is not changed. -/
theorem key_order_is_canonical :
    (∀ source reference : Fields Value, source.Distinct → reference.Distinct →
      (like source reference).Perm source ∧
      (like source reference).keys = canonicalKeys source.keys reference.keys) ∧
    ∀ s r : Value, s.WellFormed → r.WellFormed →
      (∀ p, Option.Rel (NodeOrdered (r.get? p)) (s.get? p) ((deepLike s r).get? p)) ∧
      deepLike (deepLike s r) r = deepLike s r := by
  refine ⟨fun source reference hsource hreference => ?_, fun s r hs hr => ?_⟩
  · exact ⟨KeyOrder.like_perm hsource hreference, KeyOrder.keys_like source reference⟩
  · exact ⟨KeyOrder.get?_deepLike hs hr, KeyOrder.deepLike_deepLike hs hr⟩

/-- A mapping inside a sequence gets its keys in the order of the one at its place, and so does the
mapping around both. -/
theorem key_order_is_canonical_below_sequence :
    ∃ s r : Value, s.WellFormed ∧ r.WellFormed ∧
      (s.get? [.key "o", .index 0]).map Value.text = some "\x7b\"b\":true,\"c\":null,\"a\":false\x7d" ∧
      (r.get? [.key "o", .index 0]).map Value.text = some "\x7b\"a\":null,\"b\":[]\x7d" ∧
      (∃ entries, (deepLike s r).get? [.key "o", .index 0] = some (.mapping entries) ∧
        Fields.keys entries = ["a", "b", "c"]) ∧
      (deepLike s r).text = "\x7b\"o\":[\x7b\"a\":false,\"b\":true,\"c\":null\x7d],\"z\":null\x7d" ∧
      deepLike (deepLike s r) r = deepLike s r := by
  obtain ⟨inner, hinner⟩ : ∃ inner, inner =
      Value.mapping [("b", .bool true), ("c", .null), ("a", .bool false)] := ⟨_, rfl⟩
  obtain ⟨opposite, hopposite⟩ : ∃ opposite, opposite =
      Value.mapping [("a", .null), ("b", .sequence [])] := ⟨_, rfl⟩
  obtain ⟨s, hs⟩ : ∃ s, s = Value.mapping [("z", .null), ("o", .sequence [inner])] := ⟨_, rfl⟩
  obtain ⟨r, hr⟩ : ∃ r, r = Value.mapping [("o", .sequence [opposite])] := ⟨_, rfl⟩
  have hsWell : s.WellFormed := by
    rw [hs, hinner]
    simp [Value.WellFormed, Value.WellFormedEntries, Value.WellFormedItems, Fields.Distinct,
      Fields.keys]
  have hrWell : r.WellFormed := by
    rw [hr, hopposite]
    simp [Value.WellFormed, Value.WellFormedEntries, Value.WellFormedItems, Fields.Distinct,
      Fields.keys]
  obtain ⟨hplaces, hagain⟩ := key_order_is_canonical.2 s r hsWell hrWell
  have hget : s.get? [.key "o", .index 0] = some inner := by rw [hs]; rfl
  have hgetOpposite : r.get? [.key "o", .index 0] = some opposite := by rw [hr]; rfl
  have hplace := hplaces [.key "o", .index 0]
  rw [hget, hgetOpposite, hinner, hopposite] at hplace
  refine ⟨s, r, hsWell, hrWell, ?_, ?_, ?_, ?_, hagain⟩
  · rw [hget, hinner]
    decide
  · rw [hgetOpposite, hopposite]
    decide
  · cases hafter : (deepLike s r).get? [.key "o", .index 0] with
    | none => rw [hafter] at hplace; cases hplace
    | some after =>
        rw [hafter] at hplace
        cases hplace with
        | some hnode =>
            obtain ⟨entries, rfl, hkeys, -⟩ := hnode
            exact ⟨entries, rfl, hkeys⟩
  · rw [hs, hr, hinner, hopposite]
    decide

end DocMatch
