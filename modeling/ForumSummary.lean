import ForumSummary.Text.Blank
import ForumSummary.Text.Numeral
import ForumSummary.Text.Utf8
import ForumSummary.Text.Concealed
import ForumSummary.Text.Escaped
import ForumSummary.Decimal.Shortest
import ForumSummary.Json.Number
import ForumSummary.Json.Basic
import ForumSummary.Json.Printer
import ForumSummary.Json.Outline
import ForumSummary.Json.Decoder
import ForumSummary.Json.Record
import ForumSummary.Sql.Value
import ForumSummary.Sql.Piece
import ForumSummary.Sql.Statement
import ForumSummary.Filter.Kind
import ForumSummary.Error
import ForumSummary.SortOrder
import ForumSummary.Filter.Basic
import ForumSummary.Query.Basic
import ForumSummary.Query.Stored
import ForumSummary.Row
import ForumSummary.Page
import ForumSummary.Query.Statement
import ForumSummary.Course
import ForumSummary.Forum
import ForumSummary.Calendar.Date
import ForumSummary.Calendar.Selection
import ForumSummary.Calendar.Range
import ForumSummary.Export.Format
import ForumSummary.Export.Csv
import ForumSummary.Export.Dataset
import ForumSummary.Sql.Bound
import ForumSummary.Store.Statement
import ForumSummary.Store.Session
import ForumSummary.Store.Schema
import ForumSummary.Store.Lookup
import ForumSummary.Store.Transaction
import ForumSummary.Query.Session
import ForumSummary.Report.Groups
import ForumSummary.Report.Request
import ForumSummary.Report.Scope
import ForumSummary.Report.Plan
import ForumSummary.Report.View
import ForumSummary.Report.Download
import ForumSummary.Text.Split
import ForumSummary.Http.Url
import ForumSummary.Http.MediaType
import ForumSummary.Report.GroupList
import ForumSummary.Http.Parameters
import ForumSummary.Http.Response
import ForumSummary.Http.Server
import ForumSummary.CommandLine.Config
import ForumSummary.CommandLine.Arguments
import ForumSummary.CommandLine.Run
import ForumSummary.Main
import ForumSummary.Proofs.Except
import ForumSummary.Proofs.Names
import ForumSummary.Proofs.Sql.Datum
import ForumSummary.Proofs.Sql.Semantics
import ForumSummary.Proofs.Sql.Order
import ForumSummary.Proofs.Sql.Grouping
import ForumSummary.Proofs.Sql.Joins
import ForumSummary.Proofs.Report.SourceRows
import ForumSummary.Proofs.Report.Total
import ForumSummary.Proofs.Report.Paging
import ForumSummary.Proofs.Query.Contributions
import ForumSummary.Proofs.Report.Platform
import ForumSummary.Proofs.Report.Rows
import ForumSummary.Proofs.Query.Runs
import ForumSummary.Proofs.Text.Numeral
import ForumSummary.Proofs.Text.Signed
import ForumSummary.Proofs.Json.Literal
import ForumSummary.Proofs.Decimal.Shortest
import ForumSummary.Proofs.Json.Float
import ForumSummary.Proofs.Json.Quoted
import ForumSummary.Proofs.Json.Written
import ForumSummary.Proofs.Json.Reading
import ForumSummary.Proofs.Json.Decoding
import ForumSummary.Proofs.Json.Fields
import ForumSummary.Proofs.Json.Places
import ForumSummary.Proofs.Report.PageText
import ForumSummary.Proofs.Query.Stored
import ForumSummary.Proofs.Page
import ForumSummary.Proofs.Store.Cells
import ForumSummary.Proofs.Store.Answers
import ForumSummary.Proofs.Store.Transaction
import ForumSummary.Proofs.Sql.Binding
import ForumSummary.Proofs.Sql.Arguments
import ForumSummary.Proofs.Query.Calls
import ForumSummary.Proofs.Sql.Text
import ForumSummary.Proofs.Query.Text
import ForumSummary.Proofs.Store.Failures
import ForumSummary.Proofs.Store.Wording
import ForumSummary.Proofs.Report.Groups
import ForumSummary.Proofs.Report.Plans
import ForumSummary.Proofs.Report.Discussions
import ForumSummary.Proofs.Report.Echo
import ForumSummary.Proofs.Report.Downloads
import ForumSummary.Proofs.Export.Csv
import ForumSummary.Proofs.Export.Dataset
import ForumSummary.Proofs.Sql.Placeholders
import ForumSummary.Proofs.Query.Parameters
import ForumSummary.Proofs.Report.Walk
import ForumSummary.Proofs.Report.Windows
import ForumSummary.Proofs.Report.Delivery
import ForumSummary.Proofs.Http.Outcomes
import ForumSummary.Proofs.Http.Faults
import ForumSummary.Proofs.Http.Discussions
import ForumSummary.Proofs.Calendar.Days
import ForumSummary.Proofs.Calendar.Order
import ForumSummary.Proofs.Calendar.Clock
import ForumSummary.Proofs.Calendar.Selected
import ForumSummary.Proofs.Calendar.Ranges
import ForumSummary.Proofs.Calendar.Warnings
import ForumSummary.Proofs.Calendar.Fields
import ForumSummary.Proofs.Report.SelectedDays
import ForumSummary.Proofs.Http.Form
import ForumSummary.Proofs.CommandLine.Options
import ForumSummary.Proofs.Http.Words
import ForumSummary.Proofs.Http.GroupLists
import ForumSummary.Proofs.CommandLine.Configuration
import ForumSummary.Proofs.CommandLine.Outputs
import ForumSummary.Proofs.CommandLine.Exports
