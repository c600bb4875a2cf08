import DocMatch.Json.Printer
import DocMatch.Markup.Printer
import DocMatch.Value.Basic
/-!
Values and JSON: every JSON document is a value, and every value has a JSON form
in which the leaves that JSON lacks are strings.  The text of a value in reports
rests on that form.
-/

namespace DocMatch.Value

mutual

/-- The value that a JSON document writes. -/
def ofJson : Json → Value
  | .null => .null
  | .bool b => .bool b
  | .number n => .number (.ofJson n)
  | .string s => .string s
  | .array items => .sequence (ofJsonItems items)
  | .object members => .mapping (ofJsonMembers members)

/-- The values of the items of an array. -/
def ofJsonItems : List Json → List Value
  | [] => []
  | item :: rest => ofJson item :: ofJsonItems rest

/-- The values of the members of an object. -/
def ofJsonMembers : Fields Json → Fields Value
  | [] => []
  | (key, member) :: rest => (key, ofJson member) :: ofJsonMembers rest

end

/-- Bytes are shown by their number only. -/
def bytesText (data : List UInt8) : String :=
  "<" ++ toString data.length ++ " bytes>"

mutual

/-- The JSON form of a value.  Bytes, elements and foreign values are strings
that hold their text. -/
def toJson : Value → Json
  | .null => .null
  | .bool b => .bool b
  | .number n => n.toJson
  | .string s => .string s
  | .bytes data => .string (bytesText data)
  | .sequence items => .array (toJsonItems items)
  | .mapping entries => .object (toJsonMembers entries)
  | .element e => .string e.markup
  | .foreign _ text => .string text

/-- The JSON forms of items. -/
def toJsonItems : List Value → List Json
  | [] => []
  | item :: rest => item.toJson :: toJsonItems rest

/-- The JSON forms of entries. -/
def toJsonMembers : Fields Value → Fields Json
  | [] => []
  | (key, value) :: rest => (key, value.toJson) :: toJsonMembers rest

end

/-- The text of a value: markup for an element, otherwise compact JSON. -/
def text : Value → String
  | .element e => e.markup
  | .bytes data => bytesText data
  | .foreign _ text => text
  | v => v.toJson.text

/-- The value in a message: a string in single quotes, all else by its text. -/
def describe : Value → String
  | .string s => "'" ++ s ++ "'"
  | v => v.text

end DocMatch.Value
