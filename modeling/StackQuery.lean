import StackQuery.Main
import StackQuery.Proofs.Aggregation.Census
import StackQuery.Proofs.Aggregation.Chunked
import StackQuery.Proofs.Aggregation.Direction
import StackQuery.Proofs.Aggregation.Division
import StackQuery.Proofs.Aggregation.Pool
import StackQuery.Proofs.Aggregation.Renamed
import StackQuery.Proofs.Aggregation.Scopes
import StackQuery.Proofs.Metrics.Snapshot
import StackQuery.Proofs.Number.Nearest
import StackQuery.Proofs.Number.Numeral
import StackQuery.Proofs.Number.Order
import StackQuery.Proofs.Profile.Paragraphs
import StackQuery.Proofs.Profile.Printing
import StackQuery.Proofs.Query.Assignment
import StackQuery.Proofs.Query.Association
import StackQuery.Proofs.Query.Grammar
import StackQuery.Proofs.Query.Locality
import StackQuery.Proofs.Query.Parsing
import StackQuery.Proofs.Query.Pointing
import StackQuery.Proofs.Query.Printing
import StackQuery.Proofs.Query.Reading
import StackQuery.Proofs.Query.Refusal
import StackQuery.Proofs.Query.Span
import StackQuery.Proofs.Query.Symmetry
import StackQuery.Proofs.Query.Violation
import StackQuery.Proofs.Regex.GroupNames
import StackQuery.Proofs.Regex.Reader
import StackQuery.Proofs.Regex.SharedCache
import StackQuery.Proofs.Regex.TemplateGrammar
import StackQuery.Proofs.Rename.Acceptance
import StackQuery.Proofs.Rename.Failure
import StackQuery.Proofs.Rename.References
import StackQuery.Proofs.Report.Agreement
import StackQuery.Proofs.Report.Graph
import StackQuery.Proofs.Report.OnePass
import StackQuery.Proofs.Report.PrefixTree
import StackQuery.Proofs.Report.Quotes
import StackQuery.Proofs.Report.TreeText
import StackQuery.Proofs.Run.Exit
import StackQuery.Proofs.Run.Range
import StackQuery.Proofs.Run.Rejection
import StackQuery.Proofs.Settings.Loading
import StackQuery.Proofs.Settings.Overflow
import StackQuery.Proofs.Settings.Substitution
import StackQuery.Proofs.Settings.Unreadable
