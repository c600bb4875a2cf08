/-!
Fields: an association list in insertion order with at most one entry per key.
Writing to a key that is already there keeps its position, writing to a new key
adds it at the end, and two sets of fields are compared without regard to order.
-/

namespace DocMatch

/-- Entries in insertion order; `insert` and `erase` keep the keys distinct. -/
abbrev Fields (α : Type) := List (String × α)

namespace Fields

variable {α β : Type}

/-- The keys in order. -/
def keys (fields : Fields α) : List String :=
  List.map Prod.fst fields

/-- The fields in which no key occurs twice. -/
def Distinct (fields : Fields α) : Prop :=
  fields.keys.Nodup

/-- The value written under `key`. -/
def get? (key : String) : Fields α → Option α
  | [] => none
  | (k, v) :: rest => if k = key then some v else get? key rest

/-- Whether `key` has an entry. -/
def contains (key : String) (fields : Fields α) : Bool :=
  (get? key fields).isSome

/-- Write `value` under `key`, in place or at the end. -/
def insert (key : String) (value : α) : Fields α → Fields α
  | [] => [(key, value)]
  | (k, v) :: rest => if k = key then (k, value) :: rest else (k, v) :: insert key value rest

/-- Remove the entry of `key`; the others keep their order. -/
def erase (key : String) : Fields α → Fields α
  | [] => []
  | (k, v) :: rest => if k = key then rest else (k, v) :: erase key rest

/-- Write the entries one after another, so a repeated key keeps its first
position and takes its last value. -/
def ofList (entries : List (String × α)) : Fields α :=
  entries.foldl (fun fields entry => fields.insert entry.1 entry.2) []

/-- Change every value and no key. -/
def mapValues (f : α → β) (fields : Fields α) : Fields β :=
  List.map (fun entry => (entry.1, f entry.2)) fields

@[simp] theorem get?_nil (key : String) : get? key ([] : Fields α) = none := rfl

theorem get?_insert_self (key : String) (value : α) (fields : Fields α) :
    get? key (insert key value fields) = some value := by
  induction fields with
  | nil => simp [insert, get?]
  | cons entry rest ih => by_cases h : entry.1 = key <;> simp [insert, get?, h, ih]

theorem get?_insert_of_ne {key other : String} (hne : other ≠ key) (value : α)
    (fields : Fields α) : get? other (insert key value fields) = get? other fields := by
  induction fields with
  | nil => simp [insert, get?, Ne.symm hne]
  | cons entry rest ih =>
      by_cases h : entry.1 = key
      · simp [insert, get?, h, Ne.symm hne]
      · simp [insert, get?, h, ih]

theorem get?_isSome_iff {key : String} {fields : Fields α} :
    (get? key fields).isSome = true ↔ key ∈ fields.keys := by
  induction fields with
  | nil => simp [keys]
  | cons entry rest ih =>
      by_cases h : entry.1 = key
      · simp [get?, keys, h]
      · simp only [get?, h, if_false, ih, keys, List.map_cons, List.mem_cons, Ne.symm h, false_or]

/-- An insertion changes the keys only by adding a new one at the end. -/
theorem keys_insert (key : String) (value : α) (fields : Fields α) :
    (insert key value fields).keys =
      if key ∈ fields.keys then fields.keys else fields.keys ++ [key] := by
  induction fields with
  | nil => simp [insert, keys]
  | cons entry rest ih =>
      by_cases h : entry.1 = key
      · simp [insert, keys, h]
      · simp only [insert, h, if_false, keys, List.map_cons, List.mem_cons, Ne.symm h, false_or]
        simp only [keys] at ih
        rw [ih]
        split <;> simp_all

theorem Distinct.insert {fields : Fields α} (h : fields.Distinct) (key : String) (value : α) :
    (Fields.insert key value fields).Distinct := by
  rw [Distinct, keys_insert]
  split
  · exact h
  · rename_i hnew
    rw [List.nodup_append]
    refine ⟨h, by simp, ?_⟩
    intro a ha b hb hab
    simp only [List.mem_singleton] at hb
    exact hnew (by rw [← hb, ← hab]; exact ha)

end Fields

end DocMatch
