import DocMatch.Json.Basic
import DocMatch.Text.Hex
/-!
Compact JSON text: no blanks, members in order, and in strings only the quote,
the backslash and the control characters below U+0020 escaped.
-/

namespace DocMatch.Json

/-- One character inside a JSON string. -/
def escapeChar (c : Char) : List Char :=
  if c = '"' then ['\\', '"']
  else if c = '\\' then ['\\', '\\']
  else if c = '\n' then ['\\', 'n']
  else if c = '\r' then ['\\', 'r']
  else if c = '\t' then ['\\', 't']
  else if c.toNat = 0x08 then ['\\', 'b']
  else if c.toNat = 0x0C then ['\\', 'f']
  else if c.toNat < 0x20 then
    ['\\', 'u', '0', '0', Text.hexDigit (c.toNat / 16), Text.hexDigit (c.toNat % 16)]
  else [c]

/-- A JSON string between its quotes. -/
def quoted (s : String) : List Char :=
  '"' :: s.toList.flatMap escapeChar ++ ['"']

mutual

/-- The compact text of a document, as characters. -/
def chars : Json → List Char
  | .null => "null".toList
  | .bool true => "true".toList
  | .bool false => "false".toList
  | .number n => n.text.toList
  | .string s => quoted s
  | .array items => '[' :: itemsChars items
  | .object members => '{' :: membersChars members

/-- The items of an array and its closing bracket. -/
def itemsChars : List Json → List Char
  | [] => [']']
  | [item] => item.chars ++ [']']
  | item :: rest => item.chars ++ ',' :: itemsChars rest

/-- The members of an object and its closing brace. -/
def membersChars : Fields Json → List Char
  | [] => ['}']
  | [(key, value)] => quoted key ++ ':' :: value.chars ++ ['}']
  | (key, value) :: rest => quoted key ++ ':' :: value.chars ++ ',' :: membersChars rest

end

/-- The compact text of a document. -/
def text (j : Json) : String :=
  String.ofList j.chars

end DocMatch.Json
