import DocMatch.Assignment
import DocMatch.Comparison.Failure
import DocMatch.Comparison.Mode
import DocMatch.Expectation.Compile
import DocMatch.Path.Lookup
import DocMatch.Text.Search
/-!
The differences between an actual value and a pattern, in a mode that is not
negated.  All mismatches below a container are collected, each with its path from
the value at hand, so that the verdict on a part does not depend on where the
part lies.
-/

namespace DocMatch

/-- The mode for a part of a sequence or mapping: equality, except that deep
containment goes on into containers. -/
def Mode.inner (mode : Mode) (actual : Value) (expected : Pattern) : Mode :=
  if mode = .containsDeep && (actual.isContainer || expected.isContainer) then .containsDeep
  else .equals

/-- The mode for a child element. -/
def Mode.child : Mode → Mode
  | .containsAny => .contains
  | mode => mode

/-- Whether the mode allows nothing beyond what is expected. -/
def Mode.isExact (mode : Mode) : Bool :=
  mode = .equals || mode = .containsOnly

/-- The document that a string stands for, or the value itself. -/
def Value.unfolded (settings : Settings) (v : Value) : Value :=
  match v with
  | .string text => (Pattern.document? settings text).getD v
  | v => v

/-- The places in a row that hold. -/
def truePlaces (row : List Bool) : List Nat :=
  row.zipIdx.filterMap fun (b, i) => if b then some i else none

/-- The mismatches of a list of expected items in the modes that disregard order.
A row of `fits` tells for one expected item which of the actual items match it. -/
def containmentMismatches {ε : Type} (mode : Mode) (describe : ε → String) (expected : List ε)
    (actualCount : Nat) (fits : List (List Bool)) : List Mismatch :=
  if mode = .containsAny then
    if fits.any fun row => row.any id then [] else [.noItem]
  else if expected.length > actualCount then [.tooFew actualCount expected.length]
  else if mode = .containsOnly && expected.length ≠ actualCount then
    [.sizeDiffers actualCount expected.length]
  else
    (expected.zip (Assignment.maximum (fits.map truePlaces) actualCount)).filterMap
      fun (item, place) => if place.isNone then some (.missingItem (describe item)) else none

namespace Leaf

/-- The failures of a marker; an element that fails is reported at its indexes. -/
def markerFailures (m : Marker) (actual : Value) : List Failure :=
  (m.check actual).map fun f =>
    let path : Path := f.indexes.map .index
    ⟨path, .marker f.message, actual.get? path, .string m.text⟩

/-- Whether a literal fits, and what is wrong if not. -/
def literalMismatch (mode : Mode) (expected actual : Value) : Option Mismatch :=
  match actual, expected with
  | .string a, .string e =>
      if mode.isContainment then
        if Text.occursIn e.toList a.toList then none else some .notASubstring
      else if a == e then none
      else some (.unequal expected actual)
  | _, _ => if actual.sameAs expected then none else some (.unequal expected actual)

/-- The failures of a leaf. -/
def failures (mode : Mode) (l : Leaf) (actual : Value) : List Failure :=
  match l with
  | .marker m => markerFailures m actual
  | .literal expected =>
      if actual.kind = expected.kind then
        (literalMismatch mode expected actual).toList.map fun mismatch =>
          ⟨[], mismatch, some actual, expected⟩
      else [⟨[], .kinds actual.kind (some expected.kind), some actual, expected⟩]

/-- The failure of a leaf under a key that is missing. -/
def absentFailures (key : String) (l : Leaf) : List Failure :=
  if l.allowsAbsent then [] else [⟨[], .missingKey key, none, l.toValue⟩]

end Leaf

namespace ElementPattern

/-- The key of an attribute in paths and messages. -/
def attributeKey (name : String) : String :=
  "@" ++ name

/-- The paths of child elements: the name, and for each but the first of a name
also its number among these.  `seen` are the names before. -/
def childPaths (seen : List String) : List Element → List Path
  | [] => []
  | child :: rest =>
      let n := seen.count child.name
      (if n = 0 then [.key child.name] else [.key child.name, .index n]) ::
        childPaths (child.name :: seen) rest

/-- The failures of attributes; those under a wrong value lie at the attribute. -/
def attributeFailures (expected : Fields Leaf) (actual : Fields String) : List Failure :=
  expected.flatMap fun (name, l) =>
    match Fields.get? name actual with
    | none => l.absentFailures (attributeKey name)
    | some value =>
        (l.failures .equals (.string value)).map (Failure.below [.key (attributeKey name)])

/-- The names of attributes that are not expected. -/
def extraAttributes (expected : Fields Leaf) (actual : Fields String) : List String :=
  (actual.filter fun entry => !Fields.contains entry.1 expected).map Prod.fst

/-- What is compared with the expected text of an element: its own text, or the
whole element if it has child elements. -/
def textValue (actual : Element) : Value :=
  if actual.isLeaf then .ofString? actual.text? else .element actual

/-- A failure of the whole element. -/
def wholeFailure (e : ElementPattern) (actual : Element) (m : Mismatch) : Failure :=
  ⟨[], m, some (.element actual), .element e.toElement⟩

/-- The failures of name and attributes of an element. -/
def tagFailures (mode : Mode) (e : ElementPattern) (actual : Element) : List Failure :=
  let extra := if mode.isExact then extraAttributes e.attributes actual.attributes else []
  (if extra.isEmpty then [] else [e.wholeFailure actual (.extraAttributes extra)]) ++
    attributeFailures e.attributes actual.attributes

mutual

/-- The failures of an element. -/
def failures (mode : Mode) (e : ElementPattern) (actual : Element) : List Failure :=
  if actual.name ≠ e.name then [e.wholeFailure actual (.elementName e.name actual.name)]
  else
    e.tagFailures mode actual ++
      match e with
      | .leaf _ _ text => text.failures .equals (textValue actual)
      | .branch _ _ children =>
          let items := actual.childElements
          if mode = .equals then
            if items.length ≠ children.length then
              [e.wholeFailure actual (.sizeDiffers items.length children.length)]
            else pairedFailures children items (childPaths [] items)
          else
            (containmentMismatches mode (fun child => child.toElement.markup) children items.length
              (fits mode.child children items)).map (e.wholeFailure actual)

/-- The failures of child elements in order, each below its path. -/
def pairedFailures : List ElementPattern → List Element → List Path → List Failure
  | child :: rest, item :: items, place :: places =>
      (child.failures .equals item).map (Failure.below place) ++ pairedFailures rest items places
  | _, _, _ => []

/-- Which child elements match which expected ones. -/
def fits (mode : Mode) : List ElementPattern → List Element → List (List Bool)
  | [], _ => []
  | child :: rest, items =>
      (items.map fun item => (child.failures mode item).isEmpty) :: fits mode rest items

end

end ElementPattern

namespace Pattern

/-- The entries under keys that are not expected. -/
def extraEntries (expected : Fields Pattern) (actual : Fields Value) : Fields Value :=
  actual.filter fun entry => !Fields.contains entry.1 expected

/-- A failure of the whole value. -/
def wholeFailure (p : Pattern) (actual : Value) (m : Mismatch) : Failure :=
  ⟨[], m, some actual, p.toValue⟩

/-- The failure of a pattern under a key that is missing. -/
def absentFailures (key : String) (p : Pattern) : List Failure :=
  if p.allowsAbsent then [] else [⟨[], .missingKey key, none, p.toValue⟩]

mutual

/-- The failures of a value.  A string that holds a document is compared as that
document where a container is expected. -/
def failures (settings : Settings) (mode : Mode) (p : Pattern) (actual : Value) :
    List Failure :=
  match p with
  | .leaf l => l.failures mode actual
  | .sequence expected =>
      let actual := actual.unfolded settings
      match actual with
      | .sequence items =>
          if mode = .equals then
            if items.length ≠ expected.length then
              [p.wholeFailure actual (.sizeDiffers items.length expected.length)]
            else pairedFailures settings 0 expected items
          else
            (containmentMismatches mode (fun item => item.toValue.text) expected items.length
              (fits settings mode expected items)).map (p.wholeFailure actual)
      | _ => [p.wholeFailure actual (.kinds actual.kind p.kind?)]
  | .mapping expected =>
      let actual := actual.unfolded settings
      match actual with
      | .mapping entries =>
          let extra := if mode.isExact then extraEntries expected entries else []
          (if extra.isEmpty then [] else [p.wholeFailure actual (.extraKeys extra)]) ++
            if mode = .containsAny then
              if anyEntryFits settings expected entries then []
              else [p.wholeFailure actual .noEntry]
            else entryFailures settings mode expected entries
      | _ => [p.wholeFailure actual (.kinds actual.kind p.kind?)]
  | .element e =>
      let actual := actual.unfolded settings
      match actual with
      | .element actual => e.failures mode actual
      | _ => [p.wholeFailure actual (.kinds actual.kind p.kind?)]

/-- The failures of items in order, each below its index. -/
def pairedFailures (settings : Settings) (i : Nat) : List Pattern → List Value → List Failure
  | p :: rest, item :: items =>
      (p.failures settings .equals item).map (Failure.below [.index i]) ++
        pairedFailures settings (i + 1) rest items
  | _, _ => []

/-- Which items match which expected ones. -/
def fits (settings : Settings) (mode : Mode) : List Pattern → List Value → List (List Bool)
  | [], _ => []
  | p :: rest, items =>
      (items.map fun item => (p.failures settings (mode.inner item p) item).isEmpty) ::
        fits settings mode rest items

/-- Whether one of the expected entries is found. -/
def anyEntryFits (settings : Settings) : Fields Pattern → Fields Value → Bool
  | [], _ => false
  | (key, p) :: rest, entries =>
      (match Fields.get? key entries with
        | none => p.allowsAbsent
        | some v => (p.failures settings .equals v).isEmpty) || anyEntryFits settings rest entries

/-- The failures of entries in the order of the expected ones, each below its key. -/
def entryFailures (settings : Settings) (mode : Mode) :
    Fields Pattern → Fields Value → List Failure
  | [], _ => []
  | (key, p) :: rest, entries =>
      (match Fields.get? key entries with
        | none => p.absentFailures key
        | some v =>
            (p.failures settings (mode.inner v p) v).map (Failure.below [.key key])) ++
        entryFailures settings mode rest entries

end

end Pattern

end DocMatch
