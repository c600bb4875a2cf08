import DocMatch.Marker.Basic
import DocMatch.Marker.Registry
import DocMatch.Number.Power
/-!
Reading markers.  A marker is a `#`, a second one if it is optional, and then
either a name with an optional argument or, in brackets, an optional size with an
optional marker of the elements.  Text that is no marker is left alone, and a
marker that asks for the value of an expression is refused.
-/

namespace DocMatch.Marker

/-- The outer form of a marker text, after its signs. -/
inductive Shape where
  /-- A name and what follows it. -/
  | named (name tail : List Char)
  /-- What the brackets hold, and what follows them. -/
  | sequence (size tail : List Char)
  /-- An expression. -/
  | expression
deriving DecidableEq, Repr

/-- Whether a text could be a marker. -/
def isMarkerText (text : String) : Bool :=
  text.toList.head? == some '#'

/-- The blanks that may stand before a name. -/
def isSpace (c : Char) : Bool :=
  c == ' ' || c == '\t' || c == '\r' || c == '\n'

/-- The characters of names. -/
def isNameChar (c : Char) : Bool :=
  c.isAlphanum || c == '_'

/-- Read a name after blanks. -/
def readNamed (s : List Char) : Option Shape :=
  match (s.dropWhile isSpace).span isNameChar with
  | ([], _) => none
  | (name, tail) => some (.named name tail)

/-- Read the outer form after the signs. -/
def readBody (s : List Char) : Option Shape :=
  match s with
  | '(' :: _ | '?' :: _ => some .expression
  | '[' :: rest =>
      match rest.span (· != ']') with
      | (size, _ :: tail) => some (.sequence size tail)
      | _ => none
  | _ => readNamed s

/-- Read the signs and the outer form; the flag says whether there are two signs. -/
def readShape : List Char → Option (Bool × Shape)
  | '#' :: '#' :: rest => (readBody rest).map (true, ·)
  | '#' :: rest => (readBody rest).map (false, ·)
  | _ => none

/-- The argument after a name.  The outer option is none if the text is no marker
after all, because the name runs into something else. -/
def readArgument (text tail : List Char) :
    Except MarkerError (Option (Option String)) :=
  match tail with
  | [] => .ok (some none)
  | c :: _ =>
      if c = '?' then .error (.unsupportedExpression (String.ofList text))
      else if Text.isBlank c then
        match Text.trim tail with
        | [] => .ok (some none)
        | argument => .ok (some (some (String.ofList argument)))
      else .ok none

/-- Sizes lie below this bound. -/
def sizeBound : Nat := twoTo 64

/-- The size in brackets: nothing, or digits that may follow a plus sign. -/
def readSize (text size : List Char) : Except MarkerError (Option Nat) :=
  match Text.trim size with
  | [] => .ok none
  | s =>
      let digits := match s with
        | '+' :: rest => rest
        | s => s
      let n := Text.digitsValue 10 digits
      if !digits.isEmpty && digits.all Char.isDigit && n < sizeBound then .ok (some n)
      else .error (.unsupportedExpression (String.ofList text))

/-- Read a marker with at most `steps` levels; none if the text is no marker. -/
def readLevels (registry : Registry) : Nat → List Char → Except MarkerError (Option Marker)
  | 0, _ => .ok none
  | steps + 1, text =>
      let whole := String.ofList text
      match readShape text with
      | none => .ok none
      | some (_, .expression) => .error (.unsupportedExpression whole)
      | some (isOptional, .named name tail) => do
          match ← readArgument text tail with
          | none => return none
          | some argument =>
              let v ← registry.compile (String.ofList name) argument
              return v.map (.validator whole isOptional)
      | some (isOptional, .sequence size tail) => do
          let size ← readSize text size
          match Text.trim tail with
          | [] => return some (.sequence whole isOptional size none)
          | element =>
              match ← readLevels registry steps element with
              | some each => return some (.sequence whole isOptional size (some each))
              | none =>
                  throw (.invalidArgument whole (.notAMarker (String.ofList element)))

/-- Read a marker; none if the text is no marker.  The text of an element marker
is shorter than the text around it, so the length bounds the levels. -/
def read (registry : Registry) (text : String) : Except MarkerError (Option Marker) :=
  readLevels registry (text.toList.length + 1) text.toList

end DocMatch.Marker
