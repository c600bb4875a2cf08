import DocMatch.Json.Token
/-!
Reading a JSON text: a machine over its tokens that holds the containers still
open on a stack.  A text may open at most 127 containers inside each other, and
of the values of a repeated key the last one counts, at the first position.
-/

namespace DocMatch.Json

/-- A container still open around a value that is being read. -/
inductive Frame where
  /-- An array, with its items so far in reverse. -/
  | array (before : List Json)
  /-- An object, with its members so far and the key of the value. -/
  | object (before : List (String × Json)) (key : String)

/-- What has been read and what has to come next. -/
inductive State where
  /-- A value has to come. -/
  | value (stack : List Frame)
  /-- An array has been opened: a value or its end has to come. -/
  | firstItem (stack : List Frame)
  /-- An object has been opened: a key or its end has to come. -/
  | firstKey (stack : List Frame)
  /-- A comma in an object has been read: a key has to come. -/
  | key (before : List (String × Json)) (stack : List Frame)
  /-- A key has been read: a colon has to come. -/
  | colon (before : List (String × Json)) (key : String) (stack : List Frame)
  /-- A value has been read in full. -/
  | done (value : Json) (stack : List Frame)

/-- How many containers may be open inside each other. -/
def maxDepth : Nat := 127

/-- Start a value inside the containers of the stack. -/
def startValue (stack : List Frame) : Token → Option State
  | .scalar value => some (.done value stack)
  | .openArray => if stack.length < maxDepth then some (.firstItem stack) else none
  | .openObject => if stack.length < maxDepth then some (.firstKey stack) else none
  | _ => none

/-- Go on after a value inside the container around it. -/
def afterValue (value : Json) : List Frame → Token → Option State
  | .array before :: stack, .comma => some (.value (.array (value :: before) :: stack))
  | .array before :: stack, .closeArray =>
      some (.done (.array (value :: before).reverse) stack)
  | .object before key :: stack, .comma => some (.key (Fields.insert key value before) stack)
  | .object before key :: stack, .closeObject =>
      some (.done (.object (Fields.insert key value before)) stack)
  | _, _ => none

/-- Take up one token. -/
def State.next : State → Token → Option State
  | .value stack, token => startValue stack token
  | .firstItem stack, .closeArray => some (.done (.array []) stack)
  | .firstItem stack, token => startValue (.array [] :: stack) token
  | .firstKey stack, .closeObject => some (.done (.object []) stack)
  | .firstKey stack, .scalar (.string name) => some (.colon [] name stack)
  | .key before stack, .scalar (.string name) => some (.colon before name stack)
  | .colon before name stack, .colon => some (.value (.object before name :: stack))
  | .done read stack, token => afterValue read stack token
  | _, _ => none

/-- Take up tokens one after another. -/
def State.run : State → List Token → Option State
  | state, [] => some state
  | state, token :: rest => (state.next token).bind fun state => state.run rest

/-- The document that tokens write, if they write exactly one. -/
def ofTokens? (tokens : List Token) : Option Json :=
  match State.run (.value []) tokens with
  | some (.done value []) => some value
  | _ => none

/-- Read a JSON text. -/
def read? (s : List Char) : Option Json :=
  (Token.ofText? s).bind ofTokens?

end DocMatch.Json
