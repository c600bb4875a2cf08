import DocMatch.Marker.Registry
import DocMatch.Text.Quoted
/-!
The listing of a registry in diagnostics: its names in the order of their code
points, whatever the order in which they were registered.
-/

namespace DocMatch.Registry

/-- Whether a name is registered. -/
def contains (registry : Registry) (name : String) : Bool :=
  Fields.contains name registry

/-- The names of a registry in order. -/
def sortedNames (registry : Registry) : List String :=
  (Fields.keys registry).mergeSort fun a b => !decide (b < a)

/-- The listing of a registry. -/
def listing (registry : Registry) : String :=
  "ValidatorRegistry \x7b validators: [" ++
    ", ".intercalate (registry.sortedNames.map Text.quoted) ++ "] \x7d"

end DocMatch.Registry
