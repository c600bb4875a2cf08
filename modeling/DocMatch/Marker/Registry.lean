import DocMatch.Fields
import DocMatch.Marker.Validator
import DocMatch.Regex.Reader
/-!
Registries: the marker names that a comparison understands, each with the way to
make its validator from an argument.
-/

namespace DocMatch

/-- What is wrong with the argument of a marker. -/
inductive ArgumentFault where
  /-- The marker takes no argument. -/
  | unexpected (argument : String)
  /-- The pattern is missing. -/
  | patternRequired
  /-- The pattern is not a regular expression. -/
  | badPattern
  /-- The text that should describe elements is no marker. -/
  | notAMarker (element : String)
deriving DecidableEq, Repr

/-- Why a marker cannot be used. -/
inductive MarkerError where
  | invalidArgument (marker : String) (fault : ArgumentFault)
  /-- The marker asks for the value of an expression. -/
  | unsupportedExpression (text : String)
deriving DecidableEq, Repr

/-- The wording of the fault. -/
def ArgumentFault.message : ArgumentFault → String
  | .unexpected argument => "unexpected argument '" ++ argument ++ "'"
  | .patternRequired => "a pattern is required"
  | .badPattern => "the pattern is not a regular expression"
  | .notAMarker element => "'" ++ element ++ "' is not a marker"

/-- The wording of the error. -/
def MarkerError.message : MarkerError → String
  | .invalidArgument marker fault =>
      "Invalid argument for marker '" ++ marker ++ "': " ++ fault.message
  | .unsupportedExpression text =>
      "Marker '" ++ text ++ "' requires an expression evaluator, which is not available"

/-- Makes a validator from an optional argument. -/
abbrev Factory := Option String → Except ArgumentFault Validator

/-- Marker names with their factories; each name has one. -/
abbrev Registry := List (String × Factory)

namespace Registry

/-- The factory of a validator that takes no argument. -/
def plain (v : Validator) : Factory
  | none => .ok v
  | some argument => .error (.unexpected argument)

/-- The pattern between marks of the start and the end of the text. -/
def anchored (pattern : String) : String :=
  "^(?:" ++ pattern ++ ")$"

/-- The factory of pattern validators.  The pattern has to be a regular
expression by itself as well as anchored at both ends. -/
def regex : Factory := fun argument =>
  let pattern := String.ofList (Text.trim (argument.getD "").toList)
  if pattern.isEmpty then .error .patternRequired
  else
    match Regex.read? pattern, Regex.read? (anchored pattern) with
    | some _, some whole => .ok (.regex pattern whole)
    | _, _ => .error .badPattern

/-- The built-in names. -/
def builtin : Registry :=
  [("ignore", plain .ignore),
   ("present", plain .present),
   ("notpresent", plain .notPresent),
   ("null", plain .null),
   ("notnull", plain .notNull),
   ("uuid", plain .uuid),
   ("string", plain .string),
   ("number", plain .number),
   ("boolean", plain .boolean),
   ("array", plain .array),
   ("object", plain .object),
   ("regex", regex)]

/-- The validator of a name and an argument; none if the name is not registered. -/
def compile (registry : Registry) (name : String) (argument : Option String) :
    Except MarkerError (Option Validator) :=
  match Fields.get? name registry with
  | none => .ok none
  | some factory =>
      match factory argument with
      | .ok v => .ok (some v)
      | .error fault => .error (.invalidArgument ("#" ++ name) fault)

end Registry

end DocMatch
