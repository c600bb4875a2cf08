import DocMatch.Comparison.Difference
/-!
Comparing in one pass.  The walk over a pattern and a value is told where in the whole
document the value lies, and adds each failure, with its full path, to those found before.
What it adds is the differences of the value, moved below that place.
-/

namespace DocMatch

/-- Add the failures of the value at a place. -/
def Failure.addBelow (place : Path) (failures : List Failure) (found : Array Failure) :
    Array Failure :=
  failures.foldl (fun found f => found.push (f.below place)) found

/-- Add the failure of an expected value at a place where nothing is.  If it is the place
of a key, the failure lies at the container that lacks the key. -/
def Failure.addAbsent (allowed : Bool) (expected : Value) (place : Path)
    (found : Array Failure) : Array Failure :=
  if allowed then found
  else
    match place.getLast? with
    | some (.key key) => found.push ⟨place.dropLast, .missingKey key, none, expected⟩
    | _ => found.push ⟨place, .missingPlace, none, expected⟩

namespace ElementPattern

/-- Add the failures of attributes, each at its own place. -/
def collectAttributes (expected : Fields Leaf) (place : Path) (actual : Fields String)
    (found : Array Failure) : Array Failure :=
  expected.foldl (fun found (name, l) =>
    let inner := place ++ [.key (attributeKey name)]
    match Fields.get? name actual with
    | none => Failure.addAbsent l.allowsAbsent l.toValue inner found
    | some value => Failure.addBelow inner (l.failures .equals (.string value)) found) found

/-- Add the failures of name and attributes of an element. -/
def collectTag (mode : Mode) (e : ElementPattern) (place : Path) (actual : Element)
    (found : Array Failure) : Array Failure :=
  let extra := if mode.isExact then extraAttributes e.attributes actual.attributes else []
  let found :=
    if extra.isEmpty then found
    else found.push ((e.wholeFailure actual (.extraAttributes extra)).below place)
  collectAttributes e.attributes place actual.attributes found

mutual

/-- Add the failures of the element at a place. -/
def collect (mode : Mode) (e : ElementPattern) (place : Path) (actual : Element)
    (found : Array Failure) : Array Failure :=
  if actual.name ≠ e.name then
    found.push ((e.wholeFailure actual (.elementName e.name actual.name)).below place)
  else
    let found := e.collectTag mode place actual found
    match e with
    | .leaf _ _ text => Failure.addBelow place (text.failures .equals (textValue actual)) found
    | .branch _ _ children =>
        let items := actual.childElements
        let places := (childPaths [] items).map (place ++ ·)
        if mode = .equals then
          if items.length ≠ children.length then
            found.push
              ((e.wholeFailure actual (.sizeDiffers items.length children.length)).below place)
          else collectPaired children items places found
        else
          Failure.addBelow place
            ((containmentMismatches mode (fun child => child.toElement.markup) children
              items.length (probes mode.child children (items.zip places))).map
                (e.wholeFailure actual)) found

/-- Add the failures of child elements in order, each at its place. -/
def collectPaired : List ElementPattern → List Element → List Path → Array Failure →
    Array Failure
  | child :: rest, item :: items, place :: places, found =>
      collectPaired rest items places (child.collect .equals place item found)
  | _, _, _, found => found

/-- Which child elements match which expected ones, each tried at its place. -/
def probes (mode : Mode) : List ElementPattern → List (Element × Path) → List (List Bool)
  | [], _ => []
  | child :: rest, items =>
      (items.map fun (item, place) => (child.collect mode place item #[]).isEmpty) ::
        probes mode rest items

end

end ElementPattern

namespace Pattern

mutual

/-- Add the failures of the value at a place.  A string that holds a document is compared
as that document where a container is expected. -/
def collect (settings : Settings) (mode : Mode) (p : Pattern) (place : Path) (actual : Value)
    (found : Array Failure) : Array Failure :=
  match p with
  | .leaf l => Failure.addBelow place (l.failures mode actual) found
  | .sequence expected =>
      let actual := actual.unfolded settings
      match actual with
      | .sequence items =>
          if mode = .equals then
            if items.length ≠ expected.length then
              found.push
                ((p.wholeFailure actual (.sizeDiffers items.length expected.length)).below place)
            else collectPaired settings 0 expected place items found
          else
            Failure.addBelow place
              ((containmentMismatches mode (fun item => item.toValue.text) expected items.length
                (probes settings mode expected place items)).map (p.wholeFailure actual)) found
      | _ => found.push ((p.wholeFailure actual (.kinds actual.kind p.kind?)).below place)
  | .mapping expected =>
      let actual := actual.unfolded settings
      match actual with
      | .mapping entries =>
          let extra := if mode.isExact then extraEntries expected entries else []
          let found :=
            if extra.isEmpty then found
            else found.push ((p.wholeFailure actual (.extraKeys extra)).below place)
          if mode = .containsAny then
            if probesEntry settings expected place entries then found
            else found.push ((p.wholeFailure actual .noEntry).below place)
          else collectEntries settings mode expected place entries found
      | _ => found.push ((p.wholeFailure actual (.kinds actual.kind p.kind?)).below place)
  | .element e =>
      let actual := actual.unfolded settings
      match actual with
      | .element actual => e.collect mode place actual found
      | _ => found.push ((p.wholeFailure actual (.kinds actual.kind p.kind?)).below place)

/-- Add the failures of items in order, each at its index. -/
def collectPaired (settings : Settings) (i : Nat) : List Pattern → Path → List Value →
    Array Failure → Array Failure
  | p :: rest, place, item :: items, found =>
      collectPaired settings (i + 1) rest place items
        (p.collect settings .equals (place ++ [.index i]) item found)
  | _, _, _, found => found

/-- Which items match which expected ones, each tried at its index. -/
def probes (settings : Settings) (mode : Mode) : List Pattern → Path → List Value →
    List (List Bool)
  | [], _, _ => []
  | p :: rest, place, items =>
      (items.zipIdx.map fun (item, i) =>
        (p.collect settings (mode.inner item p) (place ++ [.index i]) item #[]).isEmpty) ::
        probes settings mode rest place items

/-- Whether one of the expected entries is found, each tried at its key. -/
def probesEntry (settings : Settings) : Fields Pattern → Path → Fields Value → Bool
  | [], _, _ => false
  | (key, p) :: rest, place, entries =>
      (match Fields.get? key entries with
        | none => p.allowsAbsent
        | some v => (p.collect settings .equals (place ++ [.key key]) v #[]).isEmpty) ||
        probesEntry settings rest place entries

/-- Add the failures of entries in the order of the expected ones, each at its key. -/
def collectEntries (settings : Settings) (mode : Mode) : Fields Pattern → Path →
    Fields Value → Array Failure → Array Failure
  | [], _, _, found => found
  | (key, p) :: rest, place, entries, found =>
      collectEntries settings mode rest place entries <|
        match Fields.get? key entries with
        | none => Failure.addAbsent p.allowsAbsent p.toValue (place ++ [.key key]) found
        | some v => p.collect settings (mode.inner v p) (place ++ [.key key]) v found

end

end Pattern

end DocMatch
