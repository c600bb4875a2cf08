import DocMatch.Value.Basic
/-!
Ordering the keys of one document like those of another.  This only changes how
a document prints: comparisons do not look at the order of keys.
-/

namespace DocMatch.KeyOrder

variable {α β : Type}

/-- The entries of `source`: first those under keys of `reference`, in its order,
then the others in their own order. -/
def like (source : Fields α) (reference : Fields β) : Fields α :=
  reference.filterMap (fun entry => (Fields.get? entry.1 source).map (entry.1, ·)) ++
    source.filter fun entry => !Fields.contains entry.1 reference

mutual

/-- The value with its keys ordered like those of `reference`, at every level at
which both hold a mapping. -/
def deepLike : Value → Value → Value
  | .mapping source, .mapping reference => .mapping (like (entriesLike source reference) reference)
  | .sequence source, .sequence reference => .sequence (itemsLike source reference)
  | source, _ => source
termination_by structural source => source

/-- The entries with each value ordered like the one under the same key. -/
def entriesLike : Fields Value → Fields Value → Fields Value
  | [], _ => []
  | (key, v) :: rest, reference =>
      (key, match Fields.get? key reference with
        | some r => deepLike v r
        | none => v) :: entriesLike rest reference
termination_by structural source => source

/-- The items with each one ordered like the one at the same place. -/
def itemsLike : List Value → List Value → List Value
  | v :: rest, r :: reference => deepLike v r :: itemsLike rest reference
  | source, _ => source
termination_by structural source => source

end

end DocMatch.KeyOrder
