import DocMatch.Regex.Matching
import DocMatch.Text.Hex
import DocMatch.Value.Basic
/-!
Validators: the tests that markers name.
-/

namespace DocMatch

/-- A test of a value that is present. -/
inductive Validator where
  | ignore
  | present
  | notPresent
  | null
  | notNull
  | uuid
  | string
  | number
  | boolean
  | array
  | object
  /-- A pattern, and the regular expression that matches it against a whole text. -/
  | regex (pattern : String) (whole : Regex)

namespace Validator

/-- The name of the validator in markers. -/
def name : Validator → String
  | ignore => "ignore"
  | present => "present"
  | notPresent => "notpresent"
  | null => "null"
  | notNull => "notnull"
  | uuid => "uuid"
  | string => "string"
  | number => "number"
  | boolean => "boolean"
  | array => "array"
  | object => "object"
  | regex _ _ => "regex"

/-- The marker text of the validator. -/
def text : Validator → String
  | regex pattern _ => "#regex " ++ pattern
  | v => "#" ++ v.name

/-- Whether a mapping may lack a key that the validator stands for. -/
def allowsAbsent : Validator → Bool
  | ignore | notPresent => true
  | _ => false

/-- The places of the hyphens in a UUID. -/
def uuidHyphens : List Nat := [8, 13, 18, 23]

/-- Whether a text is a UUID of 36 characters, with hyphens. -/
def isUuid (s : List Char) : Bool :=
  s.length == 36 &&
    s.zipIdx.all fun (c, i) => if uuidHyphens.contains i then c == '-' else Text.isHexDigit c

/-- Whether a value passes the test. -/
def accepts : Validator → Value → Bool
  | ignore, _ | present, _ => true
  | notPresent, _ => false
  | null, v => v.isNull
  | notNull, v => !v.isNull
  | uuid, .string s => isUuid s.toList
  | string, .string _ => true
  | number, .number _ => true
  | boolean, .bool _ => true
  | array, .sequence _ => true
  | object, .mapping _ => true
  | regex _ whole, .string s => whole.isMatch s
  | _, _ => false

/-- What is said of a value that does not pass. -/
def complaint : Validator → String
  | ignore | present => ""
  | notPresent => "present"
  | null => "not null"
  | notNull => "null"
  | uuid => "not a valid #uuid"
  | string => "not a string"
  | number => "not a number"
  | boolean => "not a boolean"
  | array => "not an array or list"
  | object => "not an object or map"
  | regex _ _ => "regex match failed"

/-- The complaint about a value, if it does not pass. -/
def check (v : Validator) (value : Value) : Option String :=
  if v.accepts value then none else some v.complaint

end Validator

end DocMatch
