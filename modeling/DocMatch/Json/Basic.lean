import DocMatch.Fields
import DocMatch.Json.Number
/-!
JSON documents.  Objects keep the order of their members and hold each key once.
-/

namespace DocMatch

/-- A JSON document. -/
inductive Json where
  | null
  | bool (b : Bool)
  | number (n : JsonNumber)
  | string (s : String)
  | array (items : List Json)
  | object (members : List (String × Json))
deriving Inhabited

namespace Number

/-- The number that a JSON number writes; a double is read from its shortest text. -/
def ofJson : JsonNumber → Number
  | .integer i => ofInt i
  | .double x => (read? (Layout.json.text x).toList).getD (.double x)

/-- The JSON form of a number: its 64-bit integer if it has one, else what the text
of a decimal is read as, and null for the doubles that are not finite. -/
def toJson (n : Number) : Json :=
  match n.toInt64? with
  | some i => .number (.integer i)
  | none =>
      match n with
      | .decimal d =>
          match JsonNumber.ofText? d.text.toList with
          | some j => .number j
          | none => .null
      | .double (.finite negative m) => .number (.double (.finite negative m))
      | .double _ => .null

end Number

end DocMatch
