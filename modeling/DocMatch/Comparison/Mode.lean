import DocMatch.Json.Basic
import DocMatch.Text.Blank
/-!
Modes: the ways in which an actual value is compared with an expected one.
-/

namespace DocMatch

/-- How an actual value is compared with an expected one. -/
inductive Mode where
  /-- The same structure, with sequences in order. -/
  | equals
  | notEquals
  /-- Expected is a part of actual: some keys, distinct elements, a substring. -/
  | contains
  | notContains
  /-- The same elements in any order. -/
  | containsOnly
  /-- At least one expected element or entry. -/
  | containsAny
  /-- Containment at every level. -/
  | containsDeep
deriving DecidableEq, Repr

namespace Mode

/-- All modes. -/
def all : List Mode :=
  [.equals, .notEquals, .contains, .notContains, .containsOnly, .containsAny, .containsDeep]

/-- The name of a mode. -/
def name : Mode → String
  | equals => "EQUALS"
  | notEquals => "NOT_EQUALS"
  | contains => "CONTAINS"
  | notContains => "NOT_CONTAINS"
  | containsOnly => "CONTAINS_ONLY"
  | containsAny => "CONTAINS_ANY"
  | containsDeep => "CONTAINS_DEEP"

/-- Whether the mode passes where its positive form fails. -/
def isNegated : Mode → Bool
  | notEquals | notContains => true
  | _ => false

/-- The mode without negation. -/
def positive : Mode → Mode
  | notEquals => equals
  | notContains => contains
  | mode => mode

/-- Whether the mode, or its positive form, is a kind of containment. -/
def isContainment : Mode → Bool
  | equals | notEquals => false
  | _ => true

/-- Why a mode is not read. -/
structure ReadError where
  text : String
deriving DecidableEq, Repr

/-- The wording of the error. -/
def ReadError.message (e : ReadError) : String :=
  "Unknown match type '" ++ e.text ++ "'"

/-- Read a mode: its name or a shorter spelling, in any case and between blanks. -/
def read (text : String) : Except ReadError Mode :=
  let spelling := String.ofList ((Text.trim text.toList).map Char.toUpper)
  match spelling with
  | "EQUALS" | "==" => .ok .equals
  | "NOT_EQUALS" | "!=" => .ok .notEquals
  | "CONTAINS" => .ok .contains
  | "NOT_CONTAINS" | "!CONTAINS" => .ok .notContains
  | "CONTAINS_ONLY" | "CONTAINS ONLY" => .ok .containsOnly
  | "CONTAINS_ANY" | "CONTAINS ANY" => .ok .containsAny
  | "CONTAINS_DEEP" | "CONTAINS DEEP" => .ok .containsDeep
  | spelling => .error ⟨spelling⟩

/-- The mode with a name. -/
def ofName? (name : String) : Option Mode :=
  all.find? fun mode => mode.name == name

/-- The mode that a JSON document names: a string, or an object whose only
member is null under the name. -/
def ofJson? : Json → Option Mode
  | .string s => ofName? s
  | .object [(name, .null)] => ofName? name
  | _ => none

end Mode

end DocMatch
