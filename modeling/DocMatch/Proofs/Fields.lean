import DocMatch.Fields
import Mathlib.Data.List.Perm.Subperm
/-!
Looking up fields: what a lookup finds is an entry, with distinct keys every entry is
found, and two sets of fields with the same keys can be compared from either side.  Of
two writes to a key the second counts.
-/

namespace DocMatch

namespace Fields

variable {α ε : Type}

/-- Whether only expected keys are there. -/
def KeysWithin (actual : Fields α) (expected : Fields ε) : Prop :=
  ∀ key ∈ actual.keys, key ∈ expected.keys

theorem mem_of_get? {key : String} {v : α} {fields : Fields α} (h : get? key fields = some v) :
    (key, v) ∈ fields := by
  induction fields with
  | nil => cases h
  | cons entry rest ih =>
      obtain ⟨k, w⟩ := entry
      by_cases hkey : k = key
      · simp only [get?, hkey, if_true, Option.some.injEq] at h
        rw [hkey, h]
        exact List.mem_cons_self
      · simp only [get?, hkey, if_false] at h
        exact List.mem_cons_of_mem _ (ih h)

theorem get?_of_mem {fields : Fields α} (hdistinct : fields.Distinct) {key : String} {v : α}
    (hmem : (key, v) ∈ fields) : get? key fields = some v := by
  induction fields with
  | nil => cases hmem
  | cons entry rest ih =>
      obtain ⟨k, w⟩ := entry
      obtain ⟨hnew, hrest⟩ := List.nodup_cons.1 hdistinct
      rcases List.mem_cons.1 hmem with heq | hmem
      · cases heq
        simp [get?]
      · have hkey : k ≠ key := by
          rintro rfl
          exact hnew (List.mem_map.2 ⟨_, hmem, rfl⟩)
        simp only [get?, hkey, if_false]
        exact ih hrest hmem

theorem mem_keys_iff {fields : Fields α} {key : String} :
    key ∈ fields.keys ↔ ∃ v, get? key fields = some v := by
  rw [← get?_isSome_iff, Option.isSome_iff_exists]

/-- Of two writes to one key the second counts. -/
theorem insert_insert (key : String) (v w : α) (fields : Fields α) :
    insert key w (insert key v fields) = insert key w fields := by
  induction fields with
  | nil => simp [insert]
  | cons entry rest ih => by_cases h : entry.1 = key <;> simp [insert, h, ih]

/-- Writing what is there changes nothing. -/
theorem insert_of_get? {key : String} {v : α} {fields : Fields α}
    (h : get? key fields = some v) : insert key v fields = fields := by
  induction fields with
  | nil => cases h
  | cons entry rest ih =>
      obtain ⟨k, w⟩ := entry
      by_cases hkey : k = key
      · simp only [get?, hkey, if_true, Option.some.injEq] at h
        simp [insert, hkey, h]
      · simp only [get?, hkey, if_false] at h
        simp [insert, hkey, ih h]

/-- A new key is written at the end. -/
theorem insert_of_not_mem {key : String} (v : α) {fields : Fields α} (h : key ∉ fields.keys) :
    insert key v fields = fields ++ [(key, v)] := by
  induction fields with
  | nil => rfl
  | cons entry rest ih =>
      obtain ⟨hkey, hrest⟩ := List.ne_and_not_mem_of_not_mem_cons h
      simp [insert, Ne.symm hkey, ih hrest]

theorem get?_append_cons {key : String} {before : Fields α} (h : key ∉ before.keys) (v : α)
    (rest : Fields α) : get? key (before ++ (key, v) :: rest) = some v := by
  induction before with
  | nil => simp [get?]
  | cons entry before ih =>
      obtain ⟨hkey, hbefore⟩ := List.ne_and_not_mem_of_not_mem_cons h
      rw [List.cons_append, get?, if_neg (Ne.symm hkey)]
      exact ih hbefore

/-- An erasure takes out the first entry of the key and leaves the others. -/
theorem erase_of_get? {key : String} {v : α} {fields : Fields α} (h : get? key fields = some v) :
    ∃ before after, fields = before ++ (key, v) :: after ∧ key ∉ before.keys ∧
      erase key fields = before ++ after := by
  induction fields with
  | nil => cases h
  | cons entry rest ih =>
      obtain ⟨k, w⟩ := entry
      by_cases hkey : k = key
      · subst hkey
        simp only [get?, if_true, Option.some.injEq] at h
        subst h
        exact ⟨[], rest, rfl, by simp [keys], by simp [erase]⟩
      · simp only [get?, hkey, if_false] at h
        obtain ⟨before, after, hrest, hbefore, herase⟩ := ih h
        refine ⟨(k, w) :: before, after, by rw [hrest, List.cons_append], ?_, ?_⟩
        · rw [keys, List.map_cons, List.mem_cons, not_or]
          exact ⟨Ne.symm hkey, hbefore⟩
        · simp [erase, hkey, herase]

theorem erase_of_get?_eq_none {key : String} {fields : Fields α} (h : get? key fields = none) :
    erase key fields = fields := by
  induction fields with
  | nil => rfl
  | cons entry rest ih =>
      obtain ⟨k, w⟩ := entry
      by_cases hkey : k = key
      · simp [get?, hkey] at h
      · simp only [get?, hkey, if_false] at h
        simp [erase, hkey, ih h]

theorem mem_insert_cases {key : String} {v : α} {fields : Fields α} {entry : String × α}
    (h : entry ∈ insert key v fields) : entry = (key, v) ∨ entry ∈ fields := by
  induction fields with
  | nil => exact .inl (List.mem_singleton.1 h)
  | cons first rest ih =>
      rw [insert] at h
      split at h
      · rename_i hkey
        rw [hkey] at h
        exact (List.mem_cons.1 h).imp id (List.mem_cons_of_mem _)
      · rcases List.mem_cons.1 h with rfl | h
        · exact .inr List.mem_cons_self
        · exact (ih h).imp id (List.mem_cons_of_mem _)

theorem mem_of_mem_ofList {entries : List (String × α)} :
    ∀ entry ∈ ofList entries, entry ∈ entries := by
  apply List.foldlRecOn (motive := fun fields => ∀ entry ∈ fields, entry ∈ entries)
  · nofun
  · intro fields hfields entry hentry other hother
    rcases mem_insert_cases hother with rfl | hother
    · exact hentry
    · exact hfields other hother

/-- Of distinct keys none occurs before itself. -/
theorem Distinct.not_mem_keys {before rest : Fields α} {entry : String × α}
    (h : Distinct (before ++ entry :: rest)) : entry.1 ∉ before.keys := by
  rw [Distinct, keys, List.map_append, List.nodup_append] at h
  exact fun hmem => h.2.2 entry.1 hmem entry.1 (by simp) rfl

/-- Of distinct keys none is left where it has been taken out. -/
theorem Distinct.get?_eq_none {before after : Fields α} {key : String} {v : α}
    (h : Distinct (before ++ (key, v) :: after)) : get? key (before ++ after) = none := by
  have hnodup : (key :: keys (before ++ after)).Nodup :=
    (List.perm_middle.map Prod.fst).nodup_iff.1 h
  rw [← Option.not_isSome_iff_eq_none, get?_isSome_iff]
  exact (List.nodup_cons.1 hnodup).1

theorem distinct_ofList (entries : List (String × α)) : Distinct (ofList entries) := by
  apply List.foldlRecOn
  · exact List.nodup_nil
  · exact fun fields hfields entry _ => hfields.insert entry.1 entry.2

/-- Entries with distinct keys are written one after another. -/
theorem ofList_of_distinct {entries : Fields α} (h : entries.Distinct) :
    ofList entries = entries := by
  have hfold : ∀ before : Fields α, Distinct (before ++ entries) →
      entries.foldl (fun fields entry => insert entry.1 entry.2 fields) before =
        before ++ entries := by
    clear h
    induction entries with
    | nil => simp
    | cons entry rest ih =>
        intro before hdistinct
        have hsplit : before ++ entry :: rest = (before ++ [entry]) ++ rest := by simp
        rw [List.foldl_cons, insert_of_not_mem _ hdistinct.not_mem_keys, hsplit]
        apply ih
        rwa [hsplit] at hdistinct
  exact hfold [] h

theorem keys_mapValues (f : α → ε) (fields : Fields α) :
    (mapValues f fields).keys = fields.keys := by
  simp [keys, mapValues]

theorem mapValues_mapValues {β : Type} (f : ε → β) (g : α → ε) (fields : Fields α) :
    mapValues f (mapValues g fields) = mapValues (f ∘ g) fields := by
  simp [mapValues, Function.comp_def]

theorem mapValues_eq_iff {f : α → α} {fields : Fields α} :
    mapValues f fields = fields ↔ ∀ entry ∈ fields, f entry.2 = entry.2 := by
  induction fields with
  | nil => simp [mapValues]
  | cons entry rest ih =>
      rw [mapValues] at ih ⊢
      rw [List.map_cons, List.cons.injEq, ih, List.forall_mem_cons]
      simp [Prod.ext_iff]

theorem filter_not_contains_eq_nil {expected : Fields ε} {actual : Fields α} :
    actual.filter (fun entry => !contains entry.1 expected) = [] ↔ actual.KeysWithin expected := by
  simp only [List.filter_eq_nil_iff, KeysWithin, keys, List.mem_map, Bool.not_eq_true',
    contains, Bool.not_eq_false, get?_isSome_iff]
  constructor
  · rintro h key ⟨entry, hentry, rfl⟩
    exact h entry hentry
  · exact fun h entry hentry => h entry.1 ⟨entry, hentry, rfl⟩

/-- Two sets of fields with related values under the same keys, told from either side:
no key is new and every expected entry is found, or the sizes are equal and every
actual entry is found. -/
theorem keysWithin_and_forall_iff {expected : Fields ε} {actual : Fields α}
    (hexpected : expected.Distinct) (hactual : actual.Distinct) (rel : ε → α → Prop) :
    KeysWithin actual expected ∧
        (∀ entry ∈ expected, ∃ v, get? entry.1 actual = some v ∧ rel entry.2 v) ↔
      actual.length = expected.length ∧
        ∀ entry ∈ actual, ∃ e, get? entry.1 expected = some e ∧ rel e entry.2 := by
  have hlengths : actual.length = expected.length ↔ actual.keys.length = expected.keys.length := by
    simp [keys]
  rw [hlengths]
  constructor
  · rintro ⟨hwithin, hfound⟩
    have hall : expected.keys ⊆ actual.keys := by
      intro key hkey
      obtain ⟨entry, hentry, rfl⟩ := List.mem_map.1 hkey
      obtain ⟨v, hget, -⟩ := hfound entry hentry
      exact mem_keys_iff.2 ⟨v, hget⟩
    refine ⟨Nat.le_antisymm (hactual.subperm hwithin).length_le
      (hexpected.subperm hall).length_le, ?_⟩
    intro entry hentry
    obtain ⟨e, hget⟩ := mem_keys_iff.1 (hwithin entry.1 (List.mem_map_of_mem hentry))
    obtain ⟨v, hactualGet, hrel⟩ := hfound (entry.1, e) (mem_of_get? hget)
    rw [get?_of_mem hactual hentry] at hactualGet
    cases hactualGet
    exact ⟨e, hget, hrel⟩
  · rintro ⟨hlength, hfound⟩
    have hwithin : actual.keys ⊆ expected.keys := by
      intro key hkey
      obtain ⟨entry, hentry, rfl⟩ := List.mem_map.1 hkey
      obtain ⟨e, hget, -⟩ := hfound entry hentry
      exact mem_keys_iff.2 ⟨e, hget⟩
    have hperm := (hactual.subperm hwithin).perm_of_length_le (Nat.le_of_eq hlength.symm)
    refine ⟨hwithin, ?_⟩
    intro entry hentry
    obtain ⟨v, hget⟩ := mem_keys_iff.1 (hperm.mem_iff.2 (List.mem_map_of_mem hentry))
    obtain ⟨e, hexpectedGet, hrel⟩ := hfound (entry.1, v) (mem_of_get? hget)
    rw [get?_of_mem hexpected hentry] at hexpectedGet
    cases hexpectedGet
    exact ⟨v, hget, hrel⟩

end Fields

end DocMatch
