import DocMatch.Marker.Basic
import DocMatch.Value.Json
/-!
Patterns: expected documents in which markers have been recognised and documents
held in texts have become structure.
-/

namespace DocMatch

/-- What is expected of a value that is not taken apart. -/
inductive Leaf where
  | marker (m : Marker)
  /-- A value to be equal to. -/
  | literal (v : Value)

/-- What is expected of an element. -/
inductive ElementPattern where
  /-- An element without child elements, with what is expected of its text. -/
  | leaf (name : String) (attributes : List (String × Leaf)) (text : Leaf)
  /-- An element with child elements. -/
  | branch (name : String) (attributes : List (String × Leaf))
      (children : List ElementPattern)

/-- What is expected of a value. -/
inductive Pattern where
  | leaf (l : Leaf)
  | sequence (items : List Pattern)
  | mapping (entries : List (String × Pattern))
  | element (e : ElementPattern)

namespace Leaf

/-- The leaf as a value; a marker is its text. -/
def toValue : Leaf → Value
  | .marker m => .string m.text
  | .literal v => v

/-- The leaf as the text of an attribute or element. -/
def text (l : Leaf) : String :=
  match l.toValue with
  | .string s => s
  | v => v.text

/-- The kind of the values that fit; a marker is of no particular kind. -/
def kind? : Leaf → Option Kind
  | .marker _ => none
  | .literal v => some v.kind

/-- Whether a value may be missing. -/
def allowsAbsent : Leaf → Bool
  | .marker m => m.allowsAbsent
  | .literal _ => false

/-- The text child that stands for the leaf; null stands for no text at all. -/
def textChild : Leaf → List (Content Element)
  | .literal .null => []
  | l => [.text l.text]

end Leaf

namespace ElementPattern

/-- The name of the expected element. -/
def name : ElementPattern → String
  | .leaf name _ _ | .branch name _ _ => name

/-- What is expected of the attributes. -/
def attributes : ElementPattern → Fields Leaf
  | .leaf _ attributes _ | .branch _ attributes _ => attributes

mutual

/-- The expected element, with markers as their texts. -/
def toElement : ElementPattern → Element
  | .leaf name attributes text => ⟨name, Fields.mapValues Leaf.text attributes, text.textChild⟩
  | .branch name attributes children =>
      ⟨name, Fields.mapValues Leaf.text attributes, toChildren children⟩

/-- The expected child elements. -/
def toChildren : List ElementPattern → List (Content Element)
  | [] => []
  | child :: rest => .element child.toElement :: toChildren rest

end

end ElementPattern

namespace Pattern

mutual

/-- The pattern as a value, with markers as their texts. -/
def toValue : Pattern → Value
  | .leaf l => l.toValue
  | .sequence items => .sequence (toItems items)
  | .mapping entries => .mapping (toEntries entries)
  | .element e => .element e.toElement

/-- The items of a pattern as values. -/
def toItems : List Pattern → List Value
  | [] => []
  | item :: rest => item.toValue :: toItems rest

/-- The entries of a pattern as values. -/
def toEntries : Fields Pattern → Fields Value
  | [] => []
  | (key, p) :: rest => (key, p.toValue) :: toEntries rest

end

/-- Whether the pattern has parts that are compared one by one. -/
def isContainer : Pattern → Bool
  | .leaf _ => false
  | _ => true

/-- The kind of the values that fit; a marker is of no particular kind. -/
def kind? : Pattern → Option Kind
  | .leaf l => l.kind?
  | .sequence _ => some .sequence
  | .mapping _ => some .mapping
  | .element _ => some .element

/-- Whether a value may be missing. -/
def allowsAbsent : Pattern → Bool
  | .leaf l => l.allowsAbsent
  | _ => false

end Pattern

end DocMatch
