import DocMatch.Proofs.Places
import DocMatch.Proofs.StructuralEquality
/-!
The differences of two documents of one skeleton.  Comparing them for equality reports
exactly the leaves that differ, in the order of the expected document, each at its own place
and never at a container around it.
-/

namespace DocMatch

namespace Value

mutual

/-- The leaves of a value in order, each with its path.  Elements are not entered. -/
def leaves : Value → List (Path × Value)
  | .sequence items => leavesOfItems 0 items
  | .mapping entries => leavesOfEntries entries
  | v => [([], v)]

/-- The leaves of items, of which the first has the index `i`. -/
def leavesOfItems (i : Nat) : List Value → List (Path × Value)
  | [] => []
  | v :: rest => v.leaves.map (Prod.map (.index i :: ·) id) ++ leavesOfItems (i + 1) rest

/-- The leaves of the values of entries. -/
def leavesOfEntries : Fields Value → List (Path × Value)
  | [] => []
  | (key, v) :: rest => v.leaves.map (Prod.map (.key key :: ·) id) ++ leavesOfEntries rest

end

/-- Whether two values are put together in the same way: mappings have the same keys,
sequences the same length, and leaves lie opposite leaves of any kind. -/
inductive SameSkeleton : Value → Value → Prop
  | leaf {a v : Value} (ha : a.isContainer = false) (hv : v.isContainer = false) :
      SameSkeleton a v
  | sequence {others items : List Value} (length_eq : others.length = items.length)
      (parts : ∀ pair ∈ others.zip items, SameSkeleton pair.1 pair.2) :
      SameSkeleton (.sequence others) (.sequence items)
  | mapping {others entries : Fields Value}
      (keys_iff : ∀ key, key ∈ Fields.keys others ↔ key ∈ Fields.keys entries)
      (parts : ∀ entry ∈ entries, ∀ a, Fields.get? entry.1 others = some a →
        SameSkeleton a entry.2) :
      SameSkeleton (.mapping others) (.mapping entries)

/-- Of some leaves those that a value does not have, each with its path and with what the
value has there. -/
def differing (actual : Value) (leaves : List (Path × Value)) :
    List (Path × Option Value × Value) :=
  (leaves.filter fun (place, leaf) => !(actual.get? place).any fun x => x.sameAs leaf).map
    fun (place, leaf) => (place, actual.get? place, leaf)

variable {actual v : Value}

theorem leaves_of_leaf (hv : v.isContainer = false) : v.leaves = [([], v)] := by
  cases v with
  | sequence items => cases hv
  | mapping entries => cases hv
  | element e => cases hv
  | _ => rfl

theorem differing_append (first others : List (Path × Value)) :
    actual.differing (first ++ others) = actual.differing first ++ actual.differing others := by
  rw [differing, List.filter_append, List.map_append, differing, differing]

/-- The leaves of a part differ as they do in the part alone. -/
theorem differing_below {part : Value} {segment : Segment}
    (hget : ∀ place, actual.get? (segment :: place) = part.get? place)
    (leaves : List (Path × Value)) :
    actual.differing (leaves.map (Prod.map (segment :: ·) id)) =
      (part.differing leaves).map (Prod.map (segment :: ·) id) := by
  rw [differing, differing, List.filter_map, List.map_map, List.map_map]
  simp only [Function.comp_def, Prod.map, id, hget]

end Value

/-- The path of a failure, with the actual and the expected value there. -/
def Failure.values (f : Failure) : Path × Option Value × Value :=
  (f.path, f.actual, f.expected)

theorem Failure.map_values_below (segment : Segment) (failures : List Failure) :
    (failures.map (Failure.below [segment])).map Failure.values =
      (failures.map Failure.values).map (Prod.map (segment :: ·) id) := by
  rw [List.map_map, List.map_map]
  rfl

/-- A literal that is not equal to the actual value is reported once, at the value. -/
theorem Leaf.values_of_literal (expected actual : Value) :
    ((Leaf.literal expected).failures .equals actual).map Failure.values =
      actual.differing [([], expected)] := by
  have hnone : literalMismatch .equals expected actual = none ↔
      actual.sameAs expected = true := by
    simp [literalMismatch_eq_none_iff, Mode.isContainment]
  rw [failures, Value.differing]
  cases hsame : actual.sameAs expected with
  | true =>
      rw [if_pos (Value.kind_eq_of_sameAs hsame), hnone.2 hsame]
      simp [Value.get?, hsame]
  | false =>
      split
      · cases hmismatch : literalMismatch .equals expected actual with
        | none => simp [hnone.1 hmismatch] at hsame
        | some mismatch => simp [Value.get?, hsame, Failure.values]
      · simp [Value.get?, hsame, Failure.values]

namespace Pattern

variable {settings : Settings}

/-- The failures of items are those of one item after the other. -/
theorem values_of_pairedFailures {all others items : List Value} {i : Nat}
    (hall : all.drop i = others) (hlength : others.length = items.length)
    (ih : ∀ pair ∈ others.zip items,
      (pair.2.literally.failures settings .equals pair.1).map Failure.values =
        pair.1.differing pair.2.leaves) :
    (pairedFailures settings i (items.map Value.literally) others).map Failure.values =
      (Value.sequence all).differing (Value.leavesOfItems i items) := by
  induction items generalizing others i with
  | nil =>
      rw [List.length_eq_zero_iff.1 hlength]
      rfl
  | cons v items ihitems =>
      cases others with
      | nil => cases hlength
      | cons a others =>
          rw [List.zip_cons_cons, List.forall_mem_cons] at ih
          have hget : all[i]? = some a := by
            rw [← List.head?_drop, hall, List.head?_cons]
          have hdrop : all.drop (i + 1) = others := by
            rw [← List.tail_drop, hall, List.tail_cons]
          rw [List.map_cons, pairedFailures, List.map_append, Failure.map_values_below, ih.1,
            ihitems hdrop (Nat.succ.inj hlength) ih.2, Value.leavesOfItems,
            Value.differing_append, Value.differing_below (Value.get?_item hget)]

/-- The failures of entries are those of one entry after the other. -/
theorem values_of_entryFailures {entries others : Fields Value}
    (ih : ∀ entry ∈ entries, ∃ a, Fields.get? entry.1 others = some a ∧
      (entry.2.literally.failures settings .equals a).map Failure.values =
        a.differing entry.2.leaves) :
    (entryFailures settings .equals (Fields.mapValues Value.literally entries) others).map
        Failure.values =
      (Value.mapping others).differing (Value.leavesOfEntries entries) := by
  induction entries with
  | nil => rfl
  | cons entry rest ihrest =>
      rw [List.forall_mem_cons] at ih
      obtain ⟨⟨a, hget, hvalues⟩, hrest⟩ := ih
      have hinner : Mode.inner .equals a entry.2.literally = .equals := rfl
      rw [Fields.mapValues, List.map_cons, ← Fields.mapValues, entryFailures, List.map_append,
        ihrest hrest, Value.leavesOfEntries, Value.differing_append,
        Value.differing_below (Value.get?_entry hget)]
      simp only [hget, hinner, Failure.map_values_below, hvalues]

/-- What a value of the same skeleton has wrong is the leaves that differ. -/
theorem values_of_failures {actual v : Value} (h : actual.SameSkeleton v) :
    (v.literally.failures settings .equals actual).map Failure.values =
      actual.differing v.leaves := by
  induction h with
  | leaf ha hv =>
      rw [Value.literally_of_leaf hv, failures, Leaf.values_of_literal, Value.leaves_of_leaf hv]
  | @sequence others items length_eq _ ih =>
      rw [Value.literally, Value.literallyItems_eq_map, failures, Value.leaves]
      simp only [Value.unfolded, List.length_map, length_eq, ne_eq, not_true_eq_false, if_false,
        if_true]
      exact values_of_pairedFailures List.drop_zero length_eq ih
  | @mapping others entries keys_iff _ ih =>
      have hextra : extraEntries (Fields.mapValues Value.literally entries) others = [] := by
        refine Fields.filter_not_contains_eq_nil.2 fun key hkey => ?_
        rw [Fields.keys_mapValues]
        exact (keys_iff key).1 hkey
      rw [Value.literally, Value.literallyEntries_eq_mapValues, failures, Value.leaves]
      simp only [Value.unfolded, Mode.isExact, hextra, List.isEmpty_nil, if_true, decide_true,
        Bool.true_or, List.nil_append, reduceCtorEq, if_false]
      refine values_of_entryFailures fun entry hentry => ?_
      have hkey : entry.1 ∈ Fields.keys others :=
        (keys_iff entry.1).2 (List.mem_map_of_mem hentry)
      obtain ⟨a, hget⟩ := Fields.mem_keys_iff.1 hkey
      exact ⟨a, hget, ih entry hentry a hget⟩

end Pattern

namespace Value

variable {v : Value} {place : Path} {leaf : Value}

/-- A document with the skeleton of another one holds no elements, and neither does that. -/
theorem SameSkeleton.everywhere_isNoElement {actual v : Value} (h : actual.SameSkeleton v) :
    v.Everywhere IsNoElement := by
  induction h with
  | @leaf a v _ hv =>
      cases v with
      | sequence items => cases hv
      | mapping entries => cases hv
      | element e => cases hv
      | _ => exact nofun
  | @sequence others items length_eq _ ih =>
      refine everywhere_sequence_iff.2 ⟨nofun, fun item hitem => ?_⟩
      rw [← List.map_snd_zip (Nat.le_of_eq length_eq.symm)] at hitem
      obtain ⟨pair, hpair, rfl⟩ := List.mem_map.1 hitem
      exact ih pair hpair
  | @mapping others entries keys_iff _ ih =>
      refine everywhere_mapping_iff.2 ⟨nofun, fun entry hentry => ?_⟩
      obtain ⟨a, hget⟩ :=
        Fields.mem_keys_iff.1 ((keys_iff entry.1).2 (List.mem_map_of_mem hentry))
      exact ih entry hentry a hget

theorem mem_map_below {segment : Segment} {leaves : List (Path × Value)} :
    (place, leaf) ∈ leaves.map (Prod.map (segment :: ·) id) ↔
      ∃ rest, place = segment :: rest ∧ (rest, leaf) ∈ leaves := by
  simp only [List.mem_map, Prod.exists, Prod.map, id, Prod.mk.injEq]
  constructor
  · rintro ⟨rest, w, hmem, rfl, rfl⟩
    exact ⟨rest, rfl, hmem⟩
  · rintro ⟨rest, rfl, hmem⟩
    exact ⟨rest, leaf, hmem, rfl, rfl⟩

theorem mem_leavesOfItems_iff {items : List Value} {i : Nat} :
    (place, leaf) ∈ leavesOfItems i items ↔
      ∃ n v rest, items[n]? = some v ∧ place = .index (i + n) :: rest ∧
        (rest, leaf) ∈ v.leaves := by
  induction items generalizing i with
  | nil => simp [leavesOfItems]
  | cons v items ih =>
      rw [leavesOfItems, List.mem_append, mem_map_below, ih]
      constructor
      · rintro (⟨rest, rfl, hmem⟩ | ⟨n, w, rest, hget, rfl, hmem⟩)
        · exact ⟨0, v, rest, rfl, rfl, hmem⟩
        · exact ⟨n + 1, w, rest, hget, by rw [Nat.add_assoc, Nat.add_comm 1], hmem⟩
      · rintro ⟨n, w, rest, hget, rfl, hmem⟩
        cases n with
        | zero =>
            cases hget
            exact Or.inl ⟨rest, rfl, hmem⟩
        | succ n =>
            exact Or.inr ⟨n, w, rest, hget, by rw [Nat.add_assoc, Nat.add_comm 1], hmem⟩

theorem mem_leavesOfEntries_iff {entries : Fields Value} :
    (place, leaf) ∈ leavesOfEntries entries ↔
      ∃ entry ∈ entries, ∃ rest, place = .key entry.1 :: rest ∧ (rest, leaf) ∈ entry.2.leaves := by
  induction entries with
  | nil => simp [leavesOfEntries]
  | cons entry rest ih =>
      rw [leavesOfEntries, List.mem_append, mem_map_below, ih, List.exists_mem_cons_iff]

/-- The leaves are listed under their paths, and all of them are. -/
theorem mem_leaves_iff (v : Value) : ∀ {place : Path} {leaf : Value}, v.WellFormed →
    v.Everywhere IsNoElement →
      ((place, leaf) ∈ v.leaves ↔ v.get? place = some leaf ∧ leaf.isContainer = false) := by
  induction v using Value.induct with
  | leaf v hv =>
      intro place leaf _ _
      rw [leaves_of_leaf hv, List.mem_singleton, Prod.mk.injEq]
      cases place with
      | nil =>
          constructor
          · rintro ⟨-, rfl⟩
            exact ⟨rfl, hv⟩
          · rintro ⟨hget, -⟩
            exact ⟨rfl, (Option.some.inj hget).symm⟩
      | cons segment rest => simp [get?_cons_of_leaf hv]
  | sequence items ih =>
      intro place leaf hwell hfree
      rw [leaves, mem_leavesOfItems_iff]
      have hitem : ∀ (n : Nat) (v : Value) (rest : Path), items[n]? = some v →
          ((rest, leaf) ∈ v.leaves ↔ v.get? rest = some leaf ∧ leaf.isContainer = false) := by
        intro n v rest hget
        have hmem := List.mem_of_getElem? hget
        exact ih v hmem (wellFormed_sequence_iff.1 hwell v hmem) (hfree.item hmem)
      constructor
      · rintro ⟨n, v, rest, hget, rfl, hmem⟩
        rw [Nat.zero_add, get?_item hget]
        exact (hitem n v rest hget).1 hmem
      · rintro ⟨hget, hleaf⟩
        cases place with
        | nil =>
            cases hget
            cases hleaf
        | cons segment rest =>
            cases segment with
            | index n =>
                obtain ⟨v, hv, hrest⟩ := Option.bind_eq_some_iff.1 hget
                exact ⟨n, v, rest, hv, by rw [Nat.zero_add],
                  (hitem n v rest hv).2 ⟨hrest, hleaf⟩⟩
            | _ => cases hget
  | mapping entries ih =>
      intro place leaf hwell hfree
      obtain ⟨hdistinct, hvalues⟩ := wellFormed_mapping_iff.1 hwell
      rw [leaves, mem_leavesOfEntries_iff]
      constructor
      · rintro ⟨entry, hentry, rest, rfl, hmem⟩
        rw [get?_entry (Fields.get?_of_mem hdistinct hentry)]
        exact (ih entry hentry (hvalues entry hentry) (hfree.entry hentry)).1 hmem
      · rintro ⟨hget, hleaf⟩
        cases place with
        | nil =>
            cases hget
            cases hleaf
        | cons segment rest =>
            cases segment with
            | key key =>
                obtain ⟨v, hv, hrest⟩ := Option.bind_eq_some_iff.1 hget
                have hentry := Fields.mem_of_get? hv
                exact ⟨_, hentry, rest, rfl,
                  (ih _ hentry (hvalues _ hentry) (hfree.entry hentry)).2 ⟨hrest, hleaf⟩⟩
            | _ => cases hget
  | element e =>
      intro place leaf _ hfree
      exact absurd rfl (hfree.self e)

/-- Where one of two documents of the same skeleton has a leaf the other one has one too. -/
theorem SameSkeleton.exists_leaf {actual v : Value} (h : actual.SameSkeleton v) :
    ∀ {place : Path} {leaf : Value}, (place, leaf) ∈ v.leaves →
      ∃ x, actual.get? place = some x ∧ x.isContainer = false := by
  induction h with
  | leaf ha hv =>
      intro place leaf hmem
      rw [leaves_of_leaf hv, List.mem_singleton, Prod.mk.injEq] at hmem
      rw [hmem.1]
      exact ⟨_, rfl, ha⟩
  | @sequence others items length_eq _ ih =>
      intro place leaf hmem
      obtain ⟨n, v, rest, hget, rfl, hrest⟩ := mem_leavesOfItems_iff.1 hmem
      obtain ⟨hn, rfl⟩ := List.getElem?_eq_some_iff.1 hget
      have hlt : n < others.length := length_eq ▸ hn
      have hother : others[n]? = some others[n] := List.getElem?_eq_getElem hlt
      have hpair : (others[n], items[n]) ∈ others.zip items :=
        List.mem_iff_getElem?.2 ⟨n, List.getElem?_zip_eq_some.2 ⟨hother, hget⟩⟩
      rw [Nat.zero_add, get?_item hother]
      exact ih _ hpair hrest
  | @mapping others entries keys_iff _ ih =>
      intro place leaf hmem
      obtain ⟨entry, hentry, rest, rfl, hrest⟩ := mem_leavesOfEntries_iff.1 hmem
      obtain ⟨a, hget⟩ :=
        Fields.mem_keys_iff.1 ((keys_iff entry.1).2 (List.mem_map_of_mem hentry))
      rw [get?_entry hget]
      exact ih entry hentry a hget hrest

theorem map_fst_map_below (segment : Segment) (leaves : List (Path × Value)) :
    (leaves.map (Prod.map (segment :: ·) id)).map Prod.fst =
      (leaves.map Prod.fst).map (segment :: ·) := by
  rw [List.map_map, List.map_map]
  rfl

theorem nodup_leavesOfItems {items : List Value}
    (h : ∀ v ∈ items, (v.leaves.map Prod.fst).Nodup) (i : Nat) :
    ((leavesOfItems i items).map Prod.fst).Nodup := by
  induction items generalizing i with
  | nil => exact List.nodup_nil
  | cons v rest ih =>
      rw [List.forall_mem_cons] at h
      rw [leavesOfItems, List.map_append, map_fst_map_below, List.nodup_append]
      refine ⟨h.1.map (List.cons_injective), ih h.2 (i + 1), ?_⟩
      rintro _ hfirst _ hother rfl
      obtain ⟨place, -, rfl⟩ := List.mem_map.1 hfirst
      obtain ⟨⟨_, leaf⟩, hmem, heq⟩ := List.mem_map.1 hother
      obtain ⟨n, w, other, -, rfl, -⟩ := mem_leavesOfItems_iff.1 hmem
      have hindex : i + 1 + n = i := Segment.index.inj (List.cons.inj heq).1
      omega

theorem nodup_leavesOfEntries {entries : Fields Value} (hdistinct : Fields.Distinct entries)
    (h : ∀ entry ∈ entries, (entry.2.leaves.map Prod.fst).Nodup) :
    ((leavesOfEntries entries).map Prod.fst).Nodup := by
  induction entries with
  | nil => exact List.nodup_nil
  | cons entry rest ih =>
      rw [List.forall_mem_cons] at h
      obtain ⟨hnew, hrest⟩ := List.nodup_cons.1 hdistinct
      rw [leavesOfEntries, List.map_append, map_fst_map_below, List.nodup_append]
      refine ⟨h.1.map (List.cons_injective), ih hrest h.2, ?_⟩
      rintro _ hfirst _ hother rfl
      obtain ⟨place, -, rfl⟩ := List.mem_map.1 hfirst
      obtain ⟨⟨_, leaf⟩, hmem, heq⟩ := List.mem_map.1 hother
      obtain ⟨other, hentry, below, rfl, -⟩ := mem_leavesOfEntries_iff.1 hmem
      have hkey : other.1 = entry.1 := Segment.key.inj (List.cons.inj heq).1
      exact hnew (hkey ▸ List.mem_map_of_mem hentry)

/-- No path is listed twice. -/
theorem nodup_leaves (v : Value) : v.WellFormed → (v.leaves.map Prod.fst).Nodup := by
  induction v using Value.induct with
  | leaf v hv =>
      intro _
      rw [leaves_of_leaf hv]
      exact List.nodup_singleton _
  | sequence items ih =>
      intro hwell
      rw [leaves]
      exact nodup_leavesOfItems
        (fun v hv => ih v hv (wellFormed_sequence_iff.1 hwell v hv)) 0
  | mapping entries ih =>
      intro hwell
      obtain ⟨hdistinct, hvalues⟩ := wellFormed_mapping_iff.1 hwell
      rw [leaves]
      exact nodup_leavesOfEntries hdistinct
        fun entry hentry => ih entry hentry (hvalues entry hentry)
  | element e => exact fun _ => List.nodup_singleton _

end Value

/-- Two documents of one skeleton are compared leaf by leaf: each leaf of the expected one
that the actual one does not have is reported once, in order and at its own path, with the
two values there, and nothing else is. -/
theorem equals_escaped_reports_differing_leaves (m : Matcher) {actual v : Value}
    (hskeleton : actual.SameSkeleton v) (hv : v.WellFormed)
    (hdepth : v.depth ≤ m.settings.maxDepth) :
    ∃ c, m.compare actual v.escaped .equals = .ok c ∧
      c.failures.map Failure.values = actual.differing v.leaves ∧
      (v.leaves.map Prod.fst).Nodup ∧
      (∀ place leaf,
        (place, leaf) ∈ v.leaves ↔ v.get? place = some leaf ∧ leaf.isContainer = false) ∧
      ∀ place leaf, (place, leaf) ∈ v.leaves →
        ∃ x, actual.get? place = some x ∧ x.isContainer = false := by
  have hcompile : m.compile v.escaped = .ok v.literally := Pattern.compile_escaped hdepth
  refine ⟨_, Matcher.compare_of_compile hcompile actual .equals, ?_, v.nodup_leaves hv, ?_, ?_⟩
  · rw [Matcher.compareWith, Matcher.failures_of_not_negated rfl]
    exact Pattern.values_of_failures hskeleton
  · exact fun place leaf => v.mem_leaves_iff hv hskeleton.everywhere_isNoElement
  · exact fun place leaf => hskeleton.exists_leaf

/-- Of four leaves two differ, one of them in its kind; both are reported where they lie. -/
theorem two_leaves_differ :
    ∃ c, Matcher.initial.compare
        (.mapping [("b", .sequence [.bool true, .string "x"]), ("a", .string "y"), ("c", .null)])
        (Value.mapping [("a", .string "#string"), ("b", .sequence [.null, .string "x"]),
          ("c", .null)]).escaped .equals = .ok c ∧
      c.failures.map Failure.values =
        [([.key "a"], some (.string "y"), .string "#string"),
          ([.key "b", .index 0], some (.bool true), .null)] := by
  have hskeleton : (Value.mapping [("b", .sequence [.bool true, .string "x"]),
      ("a", .string "y"), ("c", .null)]).SameSkeleton
      (.mapping [("a", .string "#string"), ("b", .sequence [.null, .string "x"]),
        ("c", .null)]) := by
    refine .mapping (by simp [Fields.keys, or_left_comm]) ?_
    simp only [List.forall_mem_cons, List.not_mem_nil, false_imp_iff, implies_true, and_true]
    refine ⟨?_, ?_, ?_⟩
    · rintro _ ⟨⟩
      exact .leaf rfl rfl
    · rintro _ ⟨⟩
      refine .sequence rfl ?_
      simp only [List.zip_cons_cons, List.zip_nil_left, List.forall_mem_cons, List.not_mem_nil,
        false_imp_iff, implies_true, and_true]
      exact ⟨.leaf rfl rfl, .leaf rfl rfl⟩
    · rintro _ ⟨⟩
      exact .leaf rfl rfl
  have hwell : (Value.mapping [("a", .string "#string"), ("b", .sequence [.null, .string "x"]),
      ("c", .null)]).WellFormed := by
    simp [Value.WellFormed, Value.WellFormedEntries, Value.WellFormedItems, Fields.Distinct,
      Fields.keys]
  obtain ⟨c, hc, hvalues, -⟩ :=
    equals_escaped_reports_differing_leaves Matcher.initial hskeleton hwell (by decide)
  refine ⟨c, hc, ?_⟩
  rw [hvalues]
  rfl

end DocMatch
