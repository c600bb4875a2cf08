import DocMatch.Assignment
import DocMatch.Comparison.Difference
import DocMatch.Comparison.Failure
import DocMatch.Comparison.Matcher
import DocMatch.Comparison.Mode
import DocMatch.Comparison.Report
import DocMatch.Comparison.Settings
import DocMatch.Comparison.Walk
import DocMatch.Expectation.Basic
import DocMatch.Expectation.Compile
import DocMatch.Fields
import DocMatch.Json.Basic
import DocMatch.Json.Number
import DocMatch.Json.Printer
import DocMatch.Json.Reader
import DocMatch.Json.Token
import DocMatch.KeyOrder
import DocMatch.Marker.Basic
import DocMatch.Marker.Listing
import DocMatch.Marker.Reader
import DocMatch.Marker.Registry
import DocMatch.Marker.Validator
import DocMatch.Markup.Basic
import DocMatch.Markup.Decoded
import DocMatch.Markup.Printer
import DocMatch.Markup.Reader
import DocMatch.Markup.Token
import DocMatch.Number.Arithmetic
import DocMatch.Number.Basic
import DocMatch.Number.Decimal
import DocMatch.Number.Double
import DocMatch.Number.Layout
import DocMatch.Number.Power
import DocMatch.Number.Scientific
import DocMatch.Number.Shortest
import DocMatch.Path.Basic
import DocMatch.Path.Error
import DocMatch.Path.Lookup
import DocMatch.Path.Reader
import DocMatch.Path.Update
import DocMatch.Regex.Automaton.Chars
import DocMatch.Regex.Automaton.Extent
import DocMatch.Regex.Automaton.Size
import DocMatch.Regex.Automaton.Words
import DocMatch.Regex.Basic
import DocMatch.Regex.Brackets
import DocMatch.Regex.CharSet
import DocMatch.Regex.Escape
import DocMatch.Regex.Flags
import DocMatch.Regex.Form
import DocMatch.Regex.Matching
import DocMatch.Regex.Property
import DocMatch.Regex.Reader
import DocMatch.Text.Blank
import DocMatch.Text.Hex
import DocMatch.Text.Quoted
import DocMatch.Text.Search
import DocMatch.Text.Utf8
import DocMatch.Unicode.Age
import DocMatch.Unicode.Category
import DocMatch.Unicode.CodeRange
import DocMatch.Unicode.Fold
import DocMatch.Unicode.GraphemeBreak
import DocMatch.Unicode.Property
import DocMatch.Unicode.Runs
import DocMatch.Unicode.Script
import DocMatch.Unicode.SentenceBreak
import DocMatch.Unicode.WordBreak
import DocMatch.Value.Basic
import DocMatch.Value.Document
import DocMatch.Value.Json
import DocMatch.Proofs.Maximum
import DocMatch.Proofs.Embedding
import DocMatch.Proofs.Walk
import DocMatch.Proofs.Verdict
import DocMatch.Proofs.Containment
import DocMatch.Proofs.Compiled
import DocMatch.Proofs.ModeChain
import DocMatch.Proofs.Nodes
import DocMatch.Proofs.Escaped
import DocMatch.Proofs.StructuralEquality
import DocMatch.Proofs.Places
import DocMatch.Proofs.FailurePath
import DocMatch.Proofs.Inclusion
import DocMatch.Proofs.DeepContainment
import DocMatch.Proofs.HeldDocuments
import DocMatch.Proofs.Relocation
import DocMatch.Proofs.LeafDifferences
import DocMatch.Proofs.Reordering
import DocMatch.Proofs.PlainPatterns
import DocMatch.Proofs.ReorderedActual
import DocMatch.Proofs.ReorderedExpected
import DocMatch.Proofs.OrderBlindness
import DocMatch.Proofs.WriteStep
import DocMatch.Proofs.WriteFrame
import DocMatch.Proofs.WriteLens
import DocMatch.Proofs.FailedWrite
import DocMatch.Proofs.Scanning
import DocMatch.Proofs.PathSpelling
import DocMatch.Proofs.DisplayedPath
import DocMatch.Proofs.ExactValues
import DocMatch.Proofs.Rounding
import DocMatch.Proofs.RoundingIntervals
import DocMatch.Proofs.DecimalTexts
import DocMatch.Proofs.RoundedSteps
import DocMatch.Proofs.DecimalDoubles
import DocMatch.Proofs.ScannedNumbers
import DocMatch.Proofs.JsonTokens
import DocMatch.Proofs.JsonText
import DocMatch.Proofs.MarkupPieces
import DocMatch.Proofs.MarkupTokens
import DocMatch.Proofs.ParsedMarkup
import DocMatch.Proofs.JoinedTexts
import DocMatch.Proofs.MarkupText
import DocMatch.Proofs.TextLengths
import DocMatch.Proofs.Nesting
import DocMatch.Proofs.MarkerLevels
import DocMatch.Proofs.IgnoredPlaces
import DocMatch.Proofs.AskingLess
import DocMatch.Proofs.ComposedPaths
import DocMatch.Proofs.Removal
import DocMatch.Proofs.MatchedPrefixes
import DocMatch.Proofs.WrittenBack
import DocMatch.Proofs.ElementMarkers
import DocMatch.Proofs.MarkerSpelling
import DocMatch.Proofs.WrittenIndex
import DocMatch.Proofs.SearchCourse
import DocMatch.Proofs.IndexedSearch
import DocMatch.Proofs.SiblingPaths
import DocMatch.Proofs.CanonicalOrder
import DocMatch.Proofs.ShortestDigits
import DocMatch.Proofs.DoubleTexts
import DocMatch.Proofs.JsonNumbers
import DocMatch.Proofs.DoubleRoutes
import DocMatch.Proofs.MatchedSpans
import DocMatch.Proofs.EndMark
import DocMatch.Proofs.MarkedEscapes
import DocMatch.Proofs.MarkedBrackets
import DocMatch.Proofs.MarkedPatterns
import DocMatch.Proofs.AnchoredPatterns
