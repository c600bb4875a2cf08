import DocMatch.Comparison.Report
import DocMatch.Comparison.Walk
import DocMatch.Path.Reader
/-!
Comparing values: as a whole, each element of a sequence, the part at a path, or
two documents given as texts.
-/

namespace DocMatch

/-- What a comparison rests on: the markers it knows, and its settings. -/
structure Matcher where
  registry : Registry
  settings : Settings

namespace Matcher

/-- The built-in markers and the initial settings. -/
def initial : Matcher := ⟨.builtin, .initial⟩

/-- Compile an expected value. -/
def compile (m : Matcher) (expected : Value) : Except MatchError Pattern :=
  Pattern.compile m.registry m.settings expected

/-- Turn failures around for a negated mode. -/
def judge (mode : Mode) (place : Path) (actual : Option Value) (expected : Value)
    (failures : List Failure) : List Failure :=
  if !mode.isNegated then failures
  else if failures.isEmpty then
    [⟨place, if mode = .notEquals then .isEqual else .isContained, actual, expected⟩]
  else []

/-- The failures of what is at a place of a document, if anything is there. -/
def evaluate (m : Matcher) (mode : Mode) (p : Pattern) (place : Path) (actual : Option Value) :
    List Failure :=
  judge mode place actual p.toValue <| Array.toList <|
    match actual with
    | some v => p.collect m.settings mode.positive place v #[]
    | none => Failure.addAbsent p.allowsAbsent p.toValue place #[]

/-- The failures of a value, with paths from the value. -/
def failures (m : Matcher) (mode : Mode) (p : Pattern) (actual : Value) : List Failure :=
  m.evaluate mode p [] (some actual)

/-- Compare a value with a pattern. -/
def compareWith (m : Matcher) (actual : Value) (p : Pattern) (mode : Mode) : Comparison :=
  ⟨mode, m.failures mode p actual⟩

/-- Compare a value with an expected one. -/
def compare (m : Matcher) (actual expected : Value) (mode : Mode) :
    Except MatchError Comparison := do
  return m.compareWith actual (← m.compile expected) mode

/-- Compare each element of a sequence with a pattern. -/
def compareEachWith (m : Matcher) (actual : Value) (p : Pattern) (mode : Mode) : Comparison :=
  let actual := actual.unfolded m.settings
  match actual with
  | .sequence items =>
      if items.isEmpty && !m.settings.matchEachEmptyAllowed then
        ⟨mode, [⟨[], .emptySequence, some actual, p.toValue⟩]⟩
      else
        ⟨mode, items.zipIdx.flatMap fun (item, i) => m.evaluate mode p [.index i] (some item)⟩
  | _ => ⟨mode, [⟨[], .notASequence, some actual, p.toValue⟩]⟩

/-- Compare each element of a sequence with an expected value. -/
def compareEach (m : Matcher) (actual expected : Value) (mode : Mode) :
    Except MatchError Comparison := do
  return m.compareEachWith actual (← m.compile expected) mode

/-- Compare what is at a path with an expected value.  What is missing passes only
if the expected value allows it. -/
def compareAt (m : Matcher) (actual : Value) (path : String) (expected : Value) (mode : Mode) :
    Except MatchError Comparison := do
  let place ← (Path.read path).mapError .path
  let p ← m.compile expected
  return ⟨mode, m.evaluate mode p place (actual.get? place)⟩

/-- Compare two documents given as texts. -/
def compareDocuments (m : Matcher) (actual expected : String) (mode : Mode) :
    Except MatchError Comparison := do
  let actual ← (Value.readDocument actual).mapError .document
  let expected ← (Value.readDocument expected).mapError .document
  m.compare actual expected mode

end Matcher

end DocMatch
