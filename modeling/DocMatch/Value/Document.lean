import DocMatch.Json.Reader
import DocMatch.Markup.Reader
import DocMatch.Value.Json
/-!
Documents held in texts: JSON when the first character that is not blank is a
brace or a bracket, markup when it is a `<`.
-/

namespace DocMatch

/-- Why a text is not read as a document. -/
inductive DocumentError where
  /-- The text is not JSON. -/
  | json
  /-- The text is not markup. -/
  | markup
  /-- The text does not start like a document. -/
  | notADocument (text : String)
deriving DecidableEq, Repr

/-- The wording of the error; what is wrong inside a document is not told. -/
def DocumentError.message : DocumentError → String
  | .json => "JSON parse error"
  | .markup => "XML parse error"
  | .notADocument text => "Not a document literal: '" ++ text ++ "'"

namespace Value

/-- Read a JSON text. -/
def readJson (text : String) : Except DocumentError Value :=
  match Json.read? text.toList with
  | some j => .ok (.ofJson j)
  | none => .error .json

/-- Read a markup text. -/
def readMarkup (text : String) : Except DocumentError Element :=
  match Markup.read? text.toList with
  | some e => .ok e
  | none => .error .markup

/-- Read a text as a document. -/
def readDocument (text : String) : Except DocumentError Value :=
  let body := Text.trimLeft text.toList
  match body with
  | '{' :: _ | '[' :: _ => readJson (String.ofList body)
  | '<' :: _ => (readMarkup (String.ofList body)).map .element
  | _ => .error (.notADocument text)

/-- Whether a text starts like a document. -/
def looksLikeDocument (text : String) : Bool :=
  match Text.trimLeft text.toList with
  | '{' :: _ | '[' :: _ | '<' :: _ => true
  | _ => false

end Value

end DocMatch
