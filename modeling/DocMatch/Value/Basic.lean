import DocMatch.Markup.Basic
import DocMatch.Number.Basic
/-!
Values: the nodes of JSON-like and markup documents, and their kinds.
-/

namespace DocMatch

/-- One node of a document. -/
inductive Value where
  | null
  | bool (b : Bool)
  | number (n : Number)
  | string (s : String)
  | bytes (data : List UInt8)
  | sequence (items : List Value)
  | mapping (entries : List (String × Value))
  | element (e : Element)
  /-- A value of a type unknown here; only its text is compared. -/
  | foreign (typeName : String) (text : String)

/-- The kinds of values. -/
inductive Kind where
  | null
  | bool
  | number
  | string
  | bytes
  | sequence
  | mapping
  | element
  | foreign
deriving DecidableEq, Repr

namespace Kind

/-- The name of a kind in messages. -/
def name : Kind → String
  | null => "NULL"
  | bool => "BOOLEAN"
  | number => "NUMBER"
  | string => "STRING"
  | bytes => "BYTES"
  | sequence => "SEQUENCE"
  | mapping => "MAPPING"
  | element => "XML"
  | foreign => "OPAQUE"

/-- Whether values of the kind have parts that are compared one by one. -/
def isContainer : Kind → Bool
  | sequence | mapping | element => true
  | _ => false

end Kind

namespace Value

/-- The kind of a value. -/
def kind : Value → Kind
  | .null => .null
  | .bool _ => .bool
  | .number _ => .number
  | .string _ => .string
  | .bytes _ => .bytes
  | .sequence _ => .sequence
  | .mapping _ => .mapping
  | .element _ => .element
  | .foreign _ _ => .foreign

/-- Whether the value is a sequence, a mapping or an element. -/
def isContainer (v : Value) : Bool :=
  v.kind.isContainer

/-- Whether the value is null. -/
def isNull : Value → Bool
  | .null => true
  | _ => false

/-- The text of a string value. -/
def string? : Value → Option String
  | .string s => some s
  | _ => none

/-- A string, or null for none. -/
def ofString? (s : Option String) : Value :=
  (s.map Value.string).getD .null

mutual

/-- Equality of values: numbers by value, mappings and attributes in any order,
foreign values by their text. -/
def sameAs : Value → Value → Bool
  | .null, .null => true
  | .bool a, .bool b => a == b
  | .number a, .number b => a.numericEq b
  | .string a, .string b => a == b
  | .bytes a, .bytes b => a == b
  | .sequence a, .sequence b => sameItems a b
  | .mapping a, .mapping b => a.length == b.length && sameEntries a b
  | .element a, .element b => a.sameAs b
  | .foreign _ a, .foreign _ b => a == b
  | _, _ => false
termination_by structural v => v

/-- Equality of items, one by one. -/
def sameItems : List Value → List Value → Bool
  | [], [] => true
  | a :: as, b :: bs => a.sameAs b && sameItems as bs
  | _, _ => false
termination_by structural items => items

/-- Whether every entry has an equal one under the same key in `others`. -/
def sameEntries : Fields Value → Fields Value → Bool
  | [], _ => true
  | (key, a) :: rest, others =>
      (match Fields.get? key others with
        | some b => a.sameAs b
        | none => false) && sameEntries rest others
termination_by structural entries => entries

end

mutual

/-- Whether the keys of every mapping and the attribute names of every element
are distinct. -/
def WellFormed : Value → Prop
  | .sequence items => WellFormedItems items
  | .mapping entries => Fields.Distinct entries ∧ WellFormedEntries entries
  | .element e => e.WellFormed
  | _ => True

/-- Well-formedness of every item. -/
def WellFormedItems : List Value → Prop
  | [] => True
  | item :: rest => item.WellFormed ∧ WellFormedItems rest

/-- Well-formedness of every entry. -/
def WellFormedEntries : Fields Value → Prop
  | [] => True
  | (_, value) :: rest => value.WellFormed ∧ WellFormedEntries rest

end

end Value

end DocMatch
