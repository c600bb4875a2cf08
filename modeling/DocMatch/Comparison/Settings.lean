import DocMatch.Json.Basic
/-!
Settings of a comparison, and their JSON form.
-/

namespace DocMatch

/-- What a comparison allows. -/
structure Settings where
  /-- How deeply an expected document may be nested. -/
  maxDepth : Nat
  /-- Whether a comparison of each element of an empty sequence passes. -/
  matchEachEmptyAllowed : Bool
  /-- Whether strings that hold a document are compared as that document. -/
  parseEmbeddedDocuments : Bool
deriving DecidableEq, Repr

namespace Settings

/-- The settings where nothing else is said. -/
def initial : Settings := ⟨256, false, true⟩

/-- A depth: an integer that is not negative. -/
def depth? : Json → Option Nat
  | .number (.integer i) => if 0 ≤ i then some i.toNat else none
  | _ => none

/-- A flag. -/
def flag? : Json → Option Bool
  | .bool b => some b
  | _ => none

/-- The setting that an optional document gives, or what holds without it. -/
def given? {α : Type} (read? : Json → Option α) (otherwise : α) : Option Json → Option α
  | none => some otherwise
  | some j => read? j

/-- Settings from one optional document each. -/
def ofParts? (depth each embedded : Option Json) : Option Settings := do
  return ⟨← given? depth? initial.maxDepth depth,
    ← given? flag? initial.matchEachEmptyAllowed each,
    ← given? flag? initial.parseEmbeddedDocuments embedded⟩

/-- Read settings from an object, where unknown members do not matter, or from an
array in the order of the settings.  What is missing keeps its initial value. -/
def ofJson? : Json → Option Settings
  | .object members =>
      ofParts? (Fields.get? "maxDepth" members) (Fields.get? "matchEachEmptyAllowed" members)
        (Fields.get? "parseEmbeddedDocuments" members)
  | .array items => if items.length ≤ 3 then ofParts? items[0]? items[1]? items[2]? else none
  | _ => none

/-- The JSON form of settings. -/
def toJson (s : Settings) : Json :=
  .object
    [("maxDepth", .number (.integer s.maxDepth)),
     ("matchEachEmptyAllowed", .bool s.matchEachEmptyAllowed),
     ("parseEmbeddedDocuments", .bool s.parseEmbeddedDocuments)]

end Settings

end DocMatch
