import DocMatch.Marker.Validator
/-!
Markers: texts that stand in an expected document for a test of the value there.
-/

namespace DocMatch

/-- A marker with its text. -/
inductive Marker where
  /-- The value has to pass a validator. -/
  | validator (text : String) (isOptional : Bool) (v : Validator)
  /-- The value has to be a sequence, of a given size or of any, whose elements
  satisfy a marker of their own if there is one. -/
  | sequence (text : String) (isOptional : Bool) (size : Option Nat) (each : Option Marker)

/-- A failed check; the indexes lead to the element that failed. -/
structure MarkerFailure where
  indexes : List Nat
  message : String
deriving DecidableEq, Repr

/-- The failure as one of the element at an index of a sequence. -/
def MarkerFailure.within (i : Nat) (f : MarkerFailure) : MarkerFailure :=
  { f with indexes := i :: f.indexes }

namespace Marker

/-- The text of the marker. -/
def text : Marker → String
  | .validator text _ _ | .sequence text _ _ _ => text

/-- Whether null passes too. -/
def isOptional : Marker → Bool
  | .validator _ isOptional _ | .sequence _ isOptional _ _ => isOptional

/-- Whether a mapping may lack a key that the marker stands for. -/
def allowsAbsent : Marker → Bool
  | .validator _ isOptional v => isOptional || v.allowsAbsent
  | .sequence _ isOptional _ _ => isOptional

/-- Whether no value that is present passes, not even null. -/
def requiresAbsent : Marker → Bool
  | .validator _ _ .notPresent => true
  | _ => false

/-- The failures of a value that is present, in the order of the elements. -/
def check : Marker → Value → List MarkerFailure
  | .validator _ isOptional v, value =>
      if isOptional && value.isNull then []
      else (v.check value).toList.map fun message => ⟨[], message⟩
  | .sequence _ isOptional size each, value =>
      if isOptional && value.isNull then []
      else
        match value with
        | .sequence items =>
            if size.all (· == items.length) then
              match each with
              | none => []
              | some each =>
                  items.zipIdx.flatMap fun (item, i) =>
                    (each.check item).map (MarkerFailure.within i)
            else [⟨[], "actual array length is " ++ toString items.length⟩]
        | _ => [⟨[], "actual is not an array"⟩]

end Marker

end DocMatch
