import DocMatch.Path.Basic
import DocMatch.Value.Basic
/-!
Following a path into a value.  In an element a key names a child element, of
which there may be several; an index right after it counts those of that name
only, and any other index counts all child elements.  `@name` is an attribute
and `#text` the text of an element; both end a path.
-/

namespace DocMatch

namespace Element

/-- The key of the text of an element. -/
def textKey : String := "#text"

/-- The attribute that a key names, if it names one. -/
def attributeKey? (key : String) : Option String :=
  match key.toList with
  | '@' :: name => some (String.ofList name)
  | _ => none

/-- The child element at a position among those of the same name. -/
def namedChild? (e : Element) (name : String) (position : Nat) : Option Element :=
  (e.childElements.filter fun child => child.name == name)[position]?

/-- The value that ends a path; nothing may follow it. -/
def terminal (value : Value) (rest : Path) : Option Value :=
  if rest.isEmpty then some value else none

/-- Follow a path into an element. -/
def select? (e : Element) : Path → Option Value
  | [] => some (.element e)
  | .key key :: rest =>
      if key = textKey then terminal (.ofString? e.text?) rest
      else
        match attributeKey? key with
        | some name =>
            (Fields.get? name e.attributes).bind fun value => terminal (.string value) rest
        | none =>
            match rest with
            | .index n :: rest => (e.namedChild? key n).bind fun child => child.select? rest
            | rest => (e.namedChild? key 0).bind fun child => child.select? rest
  | .index n :: rest => e.childElements[n]?.bind fun child => child.select? rest
  | .append :: _ => none

end Element

namespace Value

/-- The value at a path. -/
def get? (v : Value) : Path → Option Value
  | [] => some v
  | segment :: rest =>
      match v, segment with
      | .element e, _ => e.select? (segment :: rest)
      | .mapping entries, .key k => (Fields.get? k entries).bind fun child => child.get? rest
      | .sequence items, .index n => items[n]?.bind fun child => child.get? rest
      | _, _ => none

/-- The value at a path that leads through mappings and sequences only. -/
def locate? (v : Value) : Path → Option Value
  | [] => some v
  | segment :: rest =>
      match v, segment with
      | .mapping entries, .key k =>
          (Fields.get? k entries).bind fun child => child.locate? rest
      | .sequence items, .index n => items[n]?.bind fun child => child.locate? rest
      | _, _ => none

/-- Whether a path leads to a value.  An end after the last item does not count. -/
def resolves (v : Value) (p : Path) : Bool :=
  (v.get? (Path.withoutAppend p)).isSome

end Value

end DocMatch
