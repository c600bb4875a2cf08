import DocMatch.Markup.Basic
import DocMatch.Markup.Decoded
import DocMatch.Text.Blank
/-!
Reading a markup document: a machine over its tokens that holds the open
elements on a stack.  Qualifiers have to be declared and are then dropped, text
is trimmed, and text that is blank is left out, so that an indented document and
a compact one give the same tree.
-/

namespace DocMatch.Markup

/-- The qualifiers in scope, each with the namespace it stands for. -/
abbrev Scope := List (List Char × List Char)

/-- A namespace that the standard of markup itself defines, by its path. -/
def standardNamespace (path : String) : List Char :=
  ("http:" ++ "//www.w3.org/" ++ path).toList

/-- The namespace that the qualifier `xml` always stands for. -/
def xmlNamespace : List Char :=
  standardNamespace "XML/1998/namespace"

/-- The namespace of declarations, which no declaration may name. -/
def xmlnsNamespace : List Char :=
  standardNamespace "2000/xmlns/"

/-- An element still open. -/
structure Frame where
  name : QName
  attributes : List (String × String)
  scope : Scope
  /-- The children so far, in reverse. -/
  before : List (Content Element)
  /-- The text since the last child or separator. -/
  pending : List Char

/-- How far a document has been read. -/
inductive State where
  | prolog
  | inside (frame : Frame) (around : List Frame)
  | epilog (root : Element)

/-- Take up the declaration `qualifier = space`.  The namespace `xml` belongs to
the qualifier `xml` and to no other, and no qualifier is declared twice in a tag. -/
def declare (declared : Scope) (qualifier space : List Char) : Option Scope :=
  if space = xmlnsNamespace then none
  else if (qualifier == "xml".toList) != (space == xmlNamespace) then none
  else if declared.any fun d => d.1 == qualifier then none
  else if space = xmlNamespace then some declared
  else some ((qualifier, space) :: declared)

/-- Separate the declarations of a tag from its other attributes, decoding values. -/
def readDeclarations :
    List (QName × List Char) → Scope → Option (Scope × List (QName × List Char))
  | [], declared => some (declared, [])
  | (name, raw) :: rest, declared => do
      let value := attributeValue (← pieces? raw)
      if name.qualifier = "xmlns".toList then
        readDeclarations rest (← declare declared name.name value)
      else if name.name = "xmlns".toList then
        if value = xmlNamespace || value = xmlnsNamespace then none
        else readDeclarations rest declared
      else
        let (declared, others) ← readDeclarations rest declared
        return (declared, (name, value) :: others)

/-- The namespace of a qualified attribute name: none without a qualifier, and an
error if the qualifier is not in scope. -/
def attributeSpace (scope : Scope) (name : QName) : Option (Option (List Char)) :=
  if name.qualifier = "xml".toList then some (some xmlNamespace)
  else if name.qualifier.isEmpty then some none
  else (scope.lookup name.qualifier).map some

/-- Resolve attributes in order; no two may share namespace and name. -/
def resolveAttributes (scope : Scope) :
    List (QName × List Char) → List (Option (List Char) × List Char) →
      Option (List (String × String))
  | [], _ => some []
  | (name, value) :: rest, seen => do
      let space ← attributeSpace scope name
      if seen.contains (space, name.name) then none
      else
        let others ← resolveAttributes scope rest ((space, name.name) :: seen)
        return (String.ofList name.name, String.ofList value) :: others

/-- Open an element inside the given scope. -/
def openFrame (scope : Scope) (name : QName) (attributes : List (QName × List Char)) :
    Option Frame := do
  if name.qualifier = "xmlns".toList then none
  else
    let (declared, others) ← readDeclarations attributes []
    let scope := declared ++ scope
    let resolved ← resolveAttributes scope others []
    if name.qualifier.isEmpty || (scope.lookup name.qualifier).isSome then
      return ⟨name, Fields.ofList resolved, scope, [], []⟩
    else none

namespace Frame

/-- Turn the pending text into a child, unless it is blank. -/
def flush (f : Frame) : Frame :=
  match Text.trim f.pending with
  | [] => { f with pending := [] }
  | text => { f with before := .text (String.ofList text) :: f.before, pending := [] }

/-- Add text to the pending text. -/
def addText (f : Frame) (text : List Char) : Frame :=
  { f with pending := f.pending ++ text }

/-- Add a child element. -/
def addElement (f : Frame) (e : Element) : Frame :=
  { f with before := .element e :: f.before }

/-- The finished element. -/
def close (f : Frame) : Element :=
  ⟨String.ofList f.name.name, f.attributes, f.flush.before.reverse⟩

end Frame

/-- Hand a finished element to the one around it, or to the document. -/
def attach (e : Element) : List Frame → State
  | [] => .epilog e
  | parent :: around => .inside (parent.addElement e) around

/-- Start an element inside the open ones. -/
def start (stack : List Frame) (scope : Scope) (name : QName)
    (attributes : List (QName × List Char)) (isEmpty : Bool) : Option State :=
  (openFrame scope name attributes).map fun frame =>
    if isEmpty then attach frame.close stack else .inside frame stack

/-- Take up one token. -/
def State.next : State → Token → Option State
  | .prolog, .startTag name attributes isEmpty => start [] [] name attributes isEmpty
  | .prolog, .separator => some .prolog
  | .prolog, .text raw => if raw.all isSpace then some .prolog else none
  | .inside frame around, .startTag name attributes isEmpty =>
      let frame := frame.flush
      start (frame :: around) frame.scope name attributes isEmpty
  | .inside frame around, .endTag name =>
      if name = frame.name then some (attach frame.close around) else none
  | .inside frame around, .text raw =>
      (pieces? raw).map fun pieces => .inside (frame.addText (textValue pieces)) around
  | .inside frame around, .characterData raw =>
      some (.inside (frame.addText (characterDataValue raw)) around)
  | .inside frame around, .separator => some (.inside frame.flush around)
  | .epilog root, .separator => some (.epilog root)
  | .epilog root, .text raw => if raw.all isSpace then some (.epilog root) else none
  | _, _ => none

/-- Take up tokens one after another. -/
def State.run : State → List Token → Option State
  | state, [] => some state
  | state, token :: rest => (state.next token).bind fun state => state.run rest

/-- The root element that tokens write, if they write exactly one. -/
def ofTokens? (tokens : List Token) : Option Element :=
  match State.run .prolog tokens with
  | some (.epilog root) => some root
  | _ => none

/-- Read a markup document. -/
def read? (s : List Char) : Option Element :=
  (tokens? s).bind ofTokens?

end DocMatch.Markup
