import SchemaSeed.Batch
import SchemaSeed.Binary64
import SchemaSeed.Binary64.Numeral
import SchemaSeed.Clock
import SchemaSeed.Column
import SchemaSeed.Column.Classify
import SchemaSeed.Command
import SchemaSeed.Command.Arguments
import SchemaSeed.Database.Connect
import SchemaSeed.Database.Connection
import SchemaSeed.Database.Insert
import SchemaSeed.Database.Scripted
import SchemaSeed.Database.Unreachable
import SchemaSeed.Datum
import SchemaSeed.Datum.Json
import SchemaSeed.Decimal.Natural
import SchemaSeed.Decimal.Rounding
import SchemaSeed.Decimal.Shortest
import SchemaSeed.Decimal.Significant
import SchemaSeed.Destination
import SchemaSeed.Destination.DryRun
import SchemaSeed.Diagnostics
import SchemaSeed.Fault
import SchemaSeed.Fill.Result
import SchemaSeed.Fill.Run
import SchemaSeed.Instant
import SchemaSeed.Literal
import SchemaSeed.Log.Line
import SchemaSeed.Log.Record
import SchemaSeed.Log.Session
import SchemaSeed.Main
import SchemaSeed.Path
import SchemaSeed.Policy
import SchemaSeed.Proofs.Column.Classify
import SchemaSeed.Proofs.Column.OpenQuotes
import SchemaSeed.Proofs.Decimal.Natural
import SchemaSeed.Proofs.Fill.Account
import SchemaSeed.Proofs.Fill.Isolation
import SchemaSeed.Proofs.Lists
import SchemaSeed.Proofs.Sql.Candidate
import SchemaSeed.Proofs.Sql.Comments
import SchemaSeed.Proofs.Sql.FirstGroup
import SchemaSeed.Proofs.Sql.Literals
import SchemaSeed.Proofs.Sql.Marker
import SchemaSeed.Proofs.Sql.Matching
import SchemaSeed.Proofs.Sql.Names
import SchemaSeed.Proofs.Sql.Nested
import SchemaSeed.Proofs.Sql.Segment
import SchemaSeed.Proofs.Table.Candidates
import SchemaSeed.Proofs.Table.Columns
import SchemaSeed.Proofs.Table.Declaration
import SchemaSeed.Proofs.Table.Layout
import SchemaSeed.Proofs.Table.Quiet
import SchemaSeed.Proofs.Table.RoundTrip
import SchemaSeed.Proofs.Table.Schema
import SchemaSeed.Proofs.Table.Statement
import SchemaSeed.Proofs.Text.Letter
import SchemaSeed.Proofs.Text.Words
import SchemaSeed.Random.Origin
import SchemaSeed.Random.Scripted
import SchemaSeed.Random.Source
import SchemaSeed.Random.Twister
import SchemaSeed.Report
import SchemaSeed.Report.Grid
import SchemaSeed.Report.Marked
import SchemaSeed.Report.Markup
import SchemaSeed.Report.Style
import SchemaSeed.RowSet
import SchemaSeed.Schema
import SchemaSeed.Settings
import SchemaSeed.Settings.Dotenv
import SchemaSeed.Sql.Block
import SchemaSeed.Sql.Candidate
import SchemaSeed.Sql.Comment
import SchemaSeed.Sql.Group
import SchemaSeed.Sql.Pattern
import SchemaSeed.Sql.Scan
import SchemaSeed.Sql.StringLiteral
import SchemaSeed.Table
import SchemaSeed.Table.Reading
import SchemaSeed.Text.Basic
import SchemaSeed.Text.Blank
import SchemaSeed.Text.Cased
import SchemaSeed.Text.Digit
import SchemaSeed.Text.Emoji
import SchemaSeed.Text.Emoji.Names
import SchemaSeed.Text.Expression
import SchemaSeed.Text.Expression.Grammar
import SchemaSeed.Text.Expression.Problem
import SchemaSeed.Text.Expression.Quoted
import SchemaSeed.Text.Expression.Reading
import SchemaSeed.Text.Expression.Token
import SchemaSeed.Text.Expression.Tree
import SchemaSeed.Text.Identifier
import SchemaSeed.Text.Letter
import SchemaSeed.Text.LowerCase
import SchemaSeed.Text.Printable
import SchemaSeed.Text.Quoted
import SchemaSeed.Text.Range
import SchemaSeed.Text.Template
import SchemaSeed.Text.Template.Directive
import SchemaSeed.Text.Template.Problem
import SchemaSeed.Text.Terminal
import SchemaSeed.Text.Utf8
import SchemaSeed.Text.Width
import SchemaSeed.Text.Word
import SchemaSeed.Validation
import SchemaSeed.Proofs.Database.Dialogue
import SchemaSeed.Proofs.Database.Protocol
import SchemaSeed.Proofs.Database.Ledger
import SchemaSeed.Proofs.Column.Items
import SchemaSeed.Proofs.Decimal.Numerals
import SchemaSeed.Proofs.Fill.Durability
import SchemaSeed.Proofs.RowSet.Literals
import SchemaSeed.Proofs.RowSet.RoundTrip
import SchemaSeed.Proofs.Sql.Value
import SchemaSeed.Proofs.Table.Enumeration
import SchemaSeed.Proofs.Database.Outcome
import SchemaSeed.Proofs.Sql.Behind
import SchemaSeed.Proofs.Sql.Pieces
import SchemaSeed.Proofs.Sql.Renaming
import SchemaSeed.Proofs.Sql.RenamedPieces
import SchemaSeed.Proofs.Table.Renaming
import SchemaSeed.Proofs.Sql.Splice
import SchemaSeed.Proofs.Sql.Lexical
import SchemaSeed.Proofs.Sql.Stripped
import SchemaSeed.Proofs.Sql.Halves
import SchemaSeed.Proofs.Sql.Between
import SchemaSeed.Proofs.Table.Agreement
import SchemaSeed.Proofs.Column.Front
import SchemaSeed.Proofs.Table.Default
import SchemaSeed.Proofs.Column.Gap
import SchemaSeed.Proofs.Table.Gap
import SchemaSeed.Proofs.Table.Wrapping
import SchemaSeed.Proofs.Fill.Indifference
import SchemaSeed.Proofs.Table.PrimaryKey
import SchemaSeed.Proofs.Text.OneLine
import SchemaSeed.Proofs.Table.Faults
import SchemaSeed.Proofs.Table.LongLength
import SchemaSeed.Proofs.Command.Inspect
import SchemaSeed.Proofs.Sql.Removal
import SchemaSeed.Proofs.Table.Comment
import SchemaSeed.Proofs.Database.Lifecycle
import SchemaSeed.Proofs.Report.Results
import SchemaSeed.Proofs.Settings.RowCount
import SchemaSeed.Proofs.Fill.Shown
import SchemaSeed.Proofs.Command.Fill
import SchemaSeed.Proofs.Sql.Contained
import SchemaSeed.Proofs.Table.Order
import SchemaSeed.Proofs.Sql.Collapsed
import SchemaSeed.Proofs.Text.Case
import SchemaSeed.Proofs.Sql.Case
import SchemaSeed.Proofs.Sql.Recased
import SchemaSeed.Proofs.Column.Case
import SchemaSeed.Proofs.Table.Case
import SchemaSeed.Proofs.Sql.Marks
import SchemaSeed.Proofs.Sql.Legible
import SchemaSeed.Proofs.Sql.Readers
import SchemaSeed.Proofs.Sql.Recognition
import SchemaSeed.Proofs.Random.Draws
import SchemaSeed.Proofs.Decimal.Spelled
import SchemaSeed.Proofs.Literal.Characters
import SchemaSeed.Proofs.Literal.Numbers
import SchemaSeed.Proofs.Literal.Fillable
import SchemaSeed.Proofs.Random.Answers
import SchemaSeed.Proofs.Literal.Calls
import SchemaSeed.Proofs.RowSet.Draws
import SchemaSeed.Proofs.RowSet.Fixed
import SchemaSeed.Proofs.Fill.Growth
import SchemaSeed.Proofs.Fill.Columns
import SchemaSeed.Proofs.Sql.Tokens
import SchemaSeed.Proofs.Sql.Splitting
import SchemaSeed.Proofs.Database.Retry
import SchemaSeed.Proofs.Destination.DryRun
import SchemaSeed.Proofs.Report.Markup
import SchemaSeed.Proofs.Report.Grid
import SchemaSeed.Proofs.Report.Readable
import SchemaSeed.Proofs.Report.Models
import SchemaSeed.Proofs.Decimal.Nearest
import SchemaSeed.Proofs.Json.Strings
import SchemaSeed.Proofs.Json.Numerals
import SchemaSeed.Proofs.Json.Reading
import SchemaSeed.Proofs.Log.Line
