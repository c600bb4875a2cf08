import DocMatch.Path.Basic
import DocMatch.Value.Basic
/-!
What can go wrong with paths.
-/

namespace DocMatch

/-- Why a path is not read or not followed. -/
inductive PathError where
  /-- The text of a path goes on with something that is no segment. -/
  | unexpectedText (path rest : String)
  /-- An index lies too far beyond the end of its sequence. -/
  | outOfRange (sequence : Path) (index length : Nat)
  /-- The root can be neither replaced nor removed. -/
  | rootPath
  /-- A path leads into a value without parts. -/
  | notAContainer (place : Path) (found : Kind)
  /-- A path leads into a tree that cannot be changed. -/
  | readOnly (place : Path) (kind : Kind)
deriving DecidableEq

/-- The wording of the error. -/
def PathError.message : PathError → String
  | .unexpectedText path rest =>
      "Invalid path '" ++ path ++ "': unexpected text at '" ++ rest ++ "'"
  | .outOfRange sequence index length =>
      "Invalid path '" ++ Path.text (sequence ++ [.index index]) ++ "': index " ++
        toString index ++ " out of range for length " ++ toString length
  | .rootPath => "Cannot replace or remove the root path '$'"
  | .notAContainer place found =>
      "Cannot address into '" ++ Path.text place ++ "': found " ++ found.name
  | .readOnly place kind =>
      "Cannot modify '" ++ Path.text place ++ "': " ++ kind.name ++ " trees are read-only"

end DocMatch
