import HtmlQuery.Css.Match
import HtmlQuery.Css.Query
import HtmlQuery.Css.Reader
import HtmlQuery.Css.Selector
import HtmlQuery.Css.Token
import HtmlQuery.Decimal.Layout
import HtmlQuery.Decimal.Magnitude
import HtmlQuery.Decimal.Shortest
import HtmlQuery.Document.Address
import HtmlQuery.Document.Attribute
import HtmlQuery.Document.Basic
import HtmlQuery.Document.Description
import HtmlQuery.Document.Markup
import HtmlQuery.Document.Node
import HtmlQuery.Document.Removal
import HtmlQuery.JmesPath.Evaluate
import HtmlQuery.JmesPath.Expression
import HtmlQuery.JmesPath.Failure
import HtmlQuery.JmesPath.Function
import HtmlQuery.JmesPath.Reader
import HtmlQuery.JmesPath.Sum
import HtmlQuery.JmesPath.Token
import HtmlQuery.Json.Basic
import HtmlQuery.Json.Comparison
import HtmlQuery.Json.Number
import HtmlQuery.Json.NumberText
import HtmlQuery.Json.Reader
import HtmlQuery.Json.Writer
import HtmlQuery.Log.Console
import HtmlQuery.Log.Record
import HtmlQuery.Markup.Construction
import HtmlQuery.Markup.Encoding
import HtmlQuery.Markup.NamedCharacters
import HtmlQuery.Markup.Nesting
import HtmlQuery.Markup.Reading
import HtmlQuery.Markup.Reference
import HtmlQuery.Markup.Token
import HtmlQuery.Pattern.Basic
import HtmlQuery.Pattern.CharSet
import HtmlQuery.Pattern.Extract
import HtmlQuery.Pattern.Match
import HtmlQuery.Pattern.Reader
import HtmlQuery.Selection.Basic
import HtmlQuery.Selection.Description
import HtmlQuery.Selection.Extraction
import HtmlQuery.Selection.Projection
import HtmlQuery.Selection.Query
import HtmlQuery.Selection.Value
import HtmlQuery.Text.Blank
import HtmlQuery.Text.Case
import HtmlQuery.Text.CaseRuns
import HtmlQuery.Text.CaseTable
import HtmlQuery.Text.CasedRanges
import HtmlQuery.Text.CodePoints
import HtmlQuery.Text.DigitRanges
import HtmlQuery.Text.Integer
import HtmlQuery.Text.Printable
import HtmlQuery.Text.PrintableRanges
import HtmlQuery.Text.Quoted
import HtmlQuery.Text.Search
import HtmlQuery.Text.Word
import HtmlQuery.Text.WordRanges
import HtmlQuery.Tree.Axes
import HtmlQuery.Tree.Basic
import HtmlQuery.XPath.Bracket
import HtmlQuery.XPath.CharacterMap
import HtmlQuery.XPath.Error
import HtmlQuery.XPath.Evaluate
import HtmlQuery.XPath.Fault
import HtmlQuery.XPath.Number
import HtmlQuery.XPath.Path
import HtmlQuery.XPath.PathReader
import HtmlQuery.XPath.PredicateReader
import HtmlQuery.XPath.Scan
import HtmlQuery.XPath.Token
import HtmlQuery.XPath.Union
import HtmlQuery.Proofs.Document.Attachment
import HtmlQuery.Proofs.Document.Pruning
import HtmlQuery.Proofs.Selection.Branches
import HtmlQuery.Proofs.Selection.NestedQuery
import HtmlQuery.Proofs.Selection.QueriedNodes
import HtmlQuery.Proofs.Selection.TypeQuery
import HtmlQuery.Proofs.Selection.UnionQuery
import HtmlQuery.Proofs.XPath.AcceptedPrefix
import HtmlQuery.Proofs.XPath.Lossless
import HtmlQuery.Proofs.XPath.PathSpelling
import HtmlQuery.Proofs.XPath.RoundTrip
import HtmlQuery.Proofs.Tree.Kinship
import HtmlQuery.Proofs.XPath.OppositeAxes
import HtmlQuery.Proofs.XPath.Connectives
import HtmlQuery.Proofs.XPath.WellFormed
import HtmlQuery.Proofs.XPath.SkippedPredicates
import HtmlQuery.Proofs.Document.SingleRemoval
import HtmlQuery.Proofs.XPath.ElementCounts
import HtmlQuery.Proofs.XPath.StackedPredicates
import HtmlQuery.Proofs.XPath.StringToken
import HtmlQuery.Proofs.XPath.UnionBranches
import HtmlQuery.Proofs.XPath.Spacing
import HtmlQuery.Proofs.XPath.NumberedSiblings
import HtmlQuery.Proofs.XPath.MirroredComparison
import HtmlQuery.Proofs.XPath.LiteralTexts
import HtmlQuery.Proofs.Selection.SuffixSplitting
import HtmlQuery.Proofs.Document.TextContent
import HtmlQuery.Proofs.XPath.AttributeNames
import HtmlQuery.Proofs.XPath.AttributePredicates
import HtmlQuery.Proofs.XPath.CharacterMaps
import HtmlQuery.Proofs.XPath.SubstringWindow
import HtmlQuery.Proofs.Selection.ChildAxis
import HtmlQuery.Proofs.XPath.AttributeSteps
import HtmlQuery.Proofs.Markup.FirstTag
import HtmlQuery.Proofs.Selection.Warnings
import HtmlQuery.Proofs.Document.Declarations
import HtmlQuery.Proofs.Document.Enclosure
import HtmlQuery.Proofs.XPath.NestedReading
import HtmlQuery.Proofs.XPath.NormalizedText
import HtmlQuery.Proofs.Css.Elements
import HtmlQuery.Proofs.Document.Traversal
