import DocMatch.Path.Basic
import DocMatch.Value.Json
/-!
Failures: what does not match, and where.
-/

namespace DocMatch

/-- What does not match at one place. -/
inductive Mismatch where
  /-- A marker is not satisfied. -/
  | marker (complaint : String)
  /-- The kinds differ. -/
  | kinds (actual : Kind) (expected : Option Kind)
  /-- Two leaves differ. -/
  | unequal (expected actual : Value)
  /-- A text does not occur in the actual one. -/
  | notASubstring
  /-- There should be as many items as expected. -/
  | sizeDiffers (actual expected : Nat)
  /-- There should be at least as many items as expected. -/
  | tooFew (actual expected : Nat)
  /-- An expected item finds no place of its own. -/
  | missingItem (item : String)
  /-- No expected item is found. -/
  | noItem
  /-- There are keys that are not expected. -/
  | extraKeys (entries : List (String × Value))
  /-- An expected key is missing. -/
  | missingKey (key : String)
  /-- The place does not exist. -/
  | missingPlace
  /-- No expected entry is found. -/
  | noEntry
  /-- The names of two elements differ. -/
  | elementName (expected actual : String)
  /-- There are attributes that are not expected. -/
  | extraAttributes (names : List String)
  /-- There is no element to compare. -/
  | emptySequence
  /-- There are no elements, because the value is no sequence. -/
  | notASequence
  /-- Two values are equal that should not be. -/
  | isEqual
  /-- A value is contained that should not be. -/
  | isContained

/-- The wording of a mismatch. -/
def Mismatch.message : Mismatch → String
  | .marker complaint => complaint
  | .kinds actual expected =>
      "data types don't match - actual " ++ actual.name ++ ", expected " ++
        (expected.map Kind.name).getD ""
  | .unequal expected actual => "expected " ++ expected.describe ++ ", actual " ++ actual.describe
  | .notASubstring => "actual does not contain expected"
  | .sizeDiffers actual expected =>
      "actual size is not equal to expected size - " ++ toString actual ++ ":" ++ toString expected
  | .tooFew actual expected =>
      "actual size is less than expected size - " ++ toString actual ++ ":" ++ toString expected
  | .missingItem item => "actual list does not contain expected item - " ++ item
  | .noItem => "actual list does not contain any expected item"
  | .extraKeys entries =>
      "actual has " ++ toString entries.length ++ " more key(s) than expected - " ++
        (Value.mapping entries).text
  | .missingKey key => "actual does not contain key - '" ++ key ++ "'"
  | .missingPlace => "actual path does not exist"
  | .noEntry => "no key-values matched"
  | .elementName expected actual => "expected element <" ++ expected ++ ">, actual <" ++ actual ++ ">"
  | .extraAttributes names =>
      "actual has " ++ toString names.length ++ " more attribute(s) than expected - " ++
        ", ".intercalate (names.map ("@" ++ ·))
  | .emptySequence => "match each failed, empty array / list"
  | .notASequence => "actual is not an array or list"
  | .isEqual => "is equal"
  | .isContained => "actual contains expected"

/-- One mismatch with its place in the actual document. -/
structure Failure where
  path : Path
  mismatch : Mismatch
  /-- The actual value; none if the place does not exist. -/
  actual : Option Value
  /-- The expected value, with markers as their texts. -/
  expected : Value

namespace Failure

/-- The failure as one of a larger document, in which the compared part lies
below `place`. -/
def below (place : Path) (f : Failure) : Failure :=
  { f with path := place ++ f.path }

/-- The place and the mismatch in words. -/
def reason (f : Failure) : String :=
  Path.text f.path ++ ": " ++ f.mismatch.message

end Failure

end DocMatch
