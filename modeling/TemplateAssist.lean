import TemplateAssist.Block.Basic
import TemplateAssist.Block.Kind
import TemplateAssist.Block.Region
import TemplateAssist.Block.Walk
import TemplateAssist.Calendar
import TemplateAssist.CommandLine.Arguments
import TemplateAssist.CommandLine.Command
import TemplateAssist.CommandLine.Run
import TemplateAssist.Completion
import TemplateAssist.Completion.Candidate
import TemplateAssist.Completion.Pool
import TemplateAssist.Cursor.Context
import TemplateAssist.Cursor.Line
import TemplateAssist.Cursor.Path
import TemplateAssist.Data
import TemplateAssist.Data.Literal
import TemplateAssist.Diagnostic
import TemplateAssist.File
import TemplateAssist.Form.Checked
import TemplateAssist.Form.Reading
import TemplateAssist.Hover
import TemplateAssist.Json.Reader
import TemplateAssist.Json.Writer
import TemplateAssist.Lint
import TemplateAssist.Lint.MixedDelimiters
import TemplateAssist.Lint.Pairing
import TemplateAssist.Lint.TagBalance
import TemplateAssist.Lint.UndefinedVariables
import TemplateAssist.Main
import TemplateAssist.Number.Binary64
import TemplateAssist.Number.Digits
import TemplateAssist.Number.Limit
import TemplateAssist.Number.Shortest
import TemplateAssist.Report.ControlSequence
import TemplateAssist.Report.Document
import TemplateAssist.Report.Emoji
import TemplateAssist.Report.Emoji.Names
import TemplateAssist.Report.Markup
import TemplateAssist.Report.Parameters
import TemplateAssist.Report.Style
import TemplateAssist.Report.Table
import TemplateAssist.Report.Wrap
import TemplateAssist.Settings.Basic
import TemplateAssist.Settings.File
import TemplateAssist.Settings.Form
import TemplateAssist.Snippet
import TemplateAssist.Snippet.Fields
import TemplateAssist.Snippet.Kind
import TemplateAssist.Tag
import TemplateAssist.Text.Basic
import TemplateAssist.Text.Blank
import TemplateAssist.Text.Cluster
import TemplateAssist.Text.CodeRange
import TemplateAssist.Text.DecimalDigit
import TemplateAssist.Text.LowerCase
import TemplateAssist.Text.Printable
import TemplateAssist.Text.Quoted
import TemplateAssist.Text.Span
import TemplateAssist.Text.Width
import TemplateAssist.Text.WordChar
import TemplateAssist.Toml.Entry
import TemplateAssist.Toml.Reader
import TemplateAssist.Toml.Scalar
import TemplateAssist.Variable.File
import TemplateAssist.Variable.Node
import TemplateAssist.Variable.Tree
import TemplateAssist.Variable.Value
import TemplateAssist.Proofs.Block.Walk
import TemplateAssist.Proofs.Block.Written
import TemplateAssist.Proofs.Text.Trim
import TemplateAssist.Proofs.Lint.MixedDelimiters
import TemplateAssist.Proofs.Lint.TagBalance
import TemplateAssist.Proofs.Lint.Pairing
import TemplateAssist.Proofs.Lint.WellFormed
import TemplateAssist.Proofs.Lint.TagGrammar
import TemplateAssist.Proofs.Lint.TagMatching
import TemplateAssist.Proofs.Block.Placement
import TemplateAssist.Proofs.Lint.Marks
import TemplateAssist.Proofs.Block.Order
import TemplateAssist.Proofs.Block.Concatenation
import TemplateAssist.Proofs.Cursor.OpenBlock
import TemplateAssist.Proofs.Cursor.Context
import TemplateAssist.Proofs.Cursor.Neighbourhood
import TemplateAssist.Proofs.Cursor.Path
import TemplateAssist.Proofs.Variable.Names
import TemplateAssist.Proofs.Variable.Listing
import TemplateAssist.Proofs.Completion.Property
import TemplateAssist.Proofs.Lint.Offered
import TemplateAssist.Proofs.Lint.Translation
import TemplateAssist.Proofs.Variable.Insertion
import TemplateAssist.Proofs.Lint.Snippets
import TemplateAssist.Proofs.Completion.Keyword
import TemplateAssist.Proofs.Variable.Merging
import TemplateAssist.Proofs.Block.Progress
import TemplateAssist.Proofs.Lint.BracketMatching
import TemplateAssist.Proofs.Block.Strides
import TemplateAssist.Proofs.Lint.StrayQuotes
import TemplateAssist.Proofs.Lint.MixedSearch
import TemplateAssist.Proofs.Lint.UnknownNames
import TemplateAssist.Proofs.Cursor.Anchor
import TemplateAssist.Proofs.Cursor.NearestWord
import TemplateAssist.Proofs.Lint.SetStatement
import TemplateAssist.Proofs.Completion.Replacement
import TemplateAssist.Proofs.Cursor.OpenPath
import TemplateAssist.Proofs.Cursor.LongestPath
import TemplateAssist.Proofs.Cursor.LineColumn
import TemplateAssist.Proofs.Lint.Layering
import TemplateAssist.Proofs.Report.Escape
import TemplateAssist.Proofs.CommandLine.Breakdown
