import DocMatch.Comparison.Failure
import DocMatch.Comparison.Mode
import DocMatch.KeyOrder
/-!
The outcome of a comparison, and its report.
-/

namespace DocMatch

/-- The failures of a comparison, in the order in which they were found. -/
structure Comparison where
  mode : Mode
  failures : List Failure

namespace Comparison

/-- Whether there is no failure. -/
def passes (c : Comparison) : Bool :=
  c.failures.isEmpty

/-- The reasons of the failures. -/
def reasons (c : Comparison) : List String :=
  c.failures.map Failure.reason

/-- The lines about one failure.  The actual value has its keys in the order of
the expected one. -/
def failureLines (f : Failure) : List String :=
  [f.reason,
   match f.actual with
   | some actual => "  actual: " ++ (KeyOrder.deepLike actual f.expected).text
   | none => "  actual: (not present)",
   "  expected: " ++ f.expected.text]

/-- The report: one line if the comparison passes, otherwise a headline and the
failures, each line ended. -/
def report (c : Comparison) : String :=
  if c.passes then "match passed: " ++ c.mode.name
  else
    String.join ((("match failed: " ++ c.mode.name) ::
      c.failures.flatMap failureLines).map (· ++ "\n"))

end Comparison

end DocMatch
