import DocMatch.Fields
/-!
Markup elements: a name, attributes and a list of children, each an element or a
run of text.
-/

namespace DocMatch

/-- A child of an element of type `ε`. -/
inductive Content (ε : Type) where
  | element (e : ε)
  | text (t : String)
deriving DecidableEq, Repr

/-- An element of a markup document. -/
structure Element where
  name : String
  attributes : List (String × String)
  children : List (Content Element)

namespace Content

variable {ε : Type}

/-- The child as an element. -/
def element? : Content ε → Option ε
  | .element e => some e
  | .text _ => none

/-- The child as text. -/
def text? : Content ε → Option String
  | .element _ => none
  | .text t => some t

end Content

namespace Element

/-- The children that are elements, in order. -/
def childElements (e : Element) : List Element :=
  e.children.filterMap Content.element?

/-- The text children joined; none if there is no text child. -/
def text? (e : Element) : Option String :=
  match e.children.filterMap Content.text? with
  | [] => none
  | parts => some (String.join parts)

/-- Whether the element has no child elements. -/
def isLeaf (e : Element) : Bool :=
  e.childElements.isEmpty

/-- Equality of attributes: the same values under the same names, in any order. -/
def sameAttributes (a b : Fields String) : Bool :=
  a.length == b.length && a.all fun (name, value) => b.get? name == some value

mutual

/-- Equality of elements: name, attributes in any order, children in order. -/
def sameAs : Element → Element → Bool
  | ⟨name, attributes, children⟩, other =>
      name == other.name && sameAttributes attributes other.attributes &&
        sameChildren children other.children

/-- Equality of children, one by one. -/
def sameChildren : List (Content Element) → List (Content Element) → Bool
  | [], [] => true
  | .element a :: rest, .element b :: others => a.sameAs b && sameChildren rest others
  | .text a :: rest, .text b :: others => a == b && sameChildren rest others
  | _, _ => false

end

mutual

/-- Whether the attribute names of the element and of all elements in it are distinct. -/
def WellFormed : Element → Prop
  | ⟨_, attributes, children⟩ => Fields.Distinct attributes ∧ WellFormedChildren children

/-- Well-formedness of every child element. -/
def WellFormedChildren : List (Content Element) → Prop
  | [] => True
  | .element e :: rest => e.WellFormed ∧ WellFormedChildren rest
  | .text _ :: rest => WellFormedChildren rest

end

end Element

end DocMatch
