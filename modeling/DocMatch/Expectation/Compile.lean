import DocMatch.Comparison.Settings
import DocMatch.Expectation.Basic
import DocMatch.Marker.Reader
import DocMatch.Path.Error
import DocMatch.Value.Document
/-!
Compiling an expected value into a pattern.  A backslash at the start of a text
is dropped and keeps the rest from being read as anything else; otherwise markers
come first and documents second.  Texts inside elements are never documents.
-/

namespace DocMatch

/-- Why a comparison is not possible. -/
inductive MatchError where
  /-- A text that has to be a document is none. -/
  | document (e : DocumentError)
  | path (e : PathError)
  | marker (e : MarkerError)
  /-- The expected value is nested too deeply. -/
  | depthLimit (limit : Nat)

/-- The wording of the error. -/
def MatchError.message : MatchError → String
  | .document e => "Invalid document: " ++ e.message
  | .path e => e.message
  | .marker e => e.message
  | .depthLimit limit =>
      "Expected value is nested deeper than the limit of " ++ toString limit ++ " levels"

/-- What an expected text means. -/
inductive Reading where
  | leaf (l : Leaf)
  /-- The text holds a document. -/
  | document (v : Value)

namespace Pattern

/-- The text after a backslash at its start. -/
def unescaped? (text : String) : Option String :=
  match text.toList with
  | '\\' :: rest => some (String.ofList rest)
  | _ => none

/-- What a text means inside an element: a marker or itself. -/
def readLeaf (registry : Registry) (text : String) : Except MatchError Leaf :=
  match unescaped? text with
  | some rest => .ok (.literal (.string rest))
  | none =>
      match Marker.read registry text with
      | .ok (some m) => .ok (.marker m)
      | .ok none => .ok (.literal (.string text))
      | .error e => .error (.marker e)

/-- The document that a text holds, if texts are to be read as documents. -/
def document? (settings : Settings) (text : String) : Option Value :=
  if settings.parseEmbeddedDocuments && Value.looksLikeDocument text then
    (Value.readDocument text).toOption
  else none

/-- What a text means outside elements: a marker, a document or itself. -/
def readText (registry : Registry) (settings : Settings) (text : String) :
    Except MatchError Reading :=
  match unescaped? text with
  | some rest => .ok (.leaf (.literal (.string rest)))
  | none =>
      match Marker.read registry text with
      | .ok (some m) => .ok (.leaf (.marker m))
      | .error e => .error (.marker e)
      | .ok none =>
          match document? settings text with
          | some v => .ok (.document v)
          | none => .ok (.leaf (.literal (.string text)))

/-- Compile entries one after another; the first error counts. -/
def compileFields {α β : Type} (f : α → Except MatchError β) :
    Fields α → Except MatchError (Fields β)
  | [] => .ok []
  | (key, v) :: rest => do
      let first ← f v
      let others ← compileFields f rest
      return (key, first) :: others

/-- Compile values one after another; the first error counts. -/
def compileList {α β : Type} (f : α → Except MatchError β) : List α → Except MatchError (List β)
  | [] => .ok []
  | v :: rest => do
      let first ← f v
      let others ← compileList f rest
      return first :: others

/-- Compile an element with room for that many levels, its own included. -/
def compileElement (registry : Registry) (limit : Nat) :
    Nat → Element → Except MatchError ElementPattern
  | 0, _ => .error (.depthLimit limit)
  | room + 1, e => do
      let attributes ← compileFields (readLeaf registry) e.attributes
      if e.isLeaf then
        let text ← match e.text? with
          | some text => readLeaf registry text
          | none => .ok (.literal .null)
        return .leaf e.name attributes text
      else
        let children ← compileList (compileElement registry limit room) e.childElements
        return .branch e.name attributes children

/-- Compile a value that is no text, with `inner` for its parts. -/
def compileParts (inner : Value → Except MatchError Pattern)
    (element : Element → Except MatchError ElementPattern) :
    Value → Except MatchError Pattern
  | .sequence items => (compileList inner items).map .sequence
  | .mapping entries => (compileFields inner entries).map .mapping
  | .element e => (element e).map .element
  | v => .ok (.leaf (.literal v))

/-- Compile a value with room for that many levels, its own included.  A document
held in a text stands at the level of the text. -/
def compileWithin (registry : Registry) (settings : Settings) :
    Nat → Value → Except MatchError Pattern
  | 0, _ => .error (.depthLimit settings.maxDepth)
  | room + 1, v =>
      let parts := compileParts (compileWithin registry settings room)
        (compileElement registry settings.maxDepth (room + 1))
      match v with
      | .string text => do
          match ← readText registry settings text with
          | .leaf l => return .leaf l
          | .document v => parts v
      | v => parts v

/-- Compile an expected value. -/
def compile (registry : Registry) (settings : Settings) (expected : Value) :
    Except MatchError Pattern :=
  compileWithin registry settings (settings.maxDepth + 1) expected

end Pattern

end DocMatch
