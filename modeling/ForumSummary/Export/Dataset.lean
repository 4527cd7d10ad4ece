import ForumSummary.Export.Csv
import ForumSummary.Export.Format
import ForumSummary.Forum
import ForumSummary.Json.Printer
import ForumSummary.Row

/-!
# Tables for download

A table has named columns and rows of JSON values; a row may be shorter or longer than the list of
columns. As comma-separated values a row keeps all its cells. As JSON a row is an object with one
member for each cell that has a column, in the order of the columns.
-/

namespace ForumSummary.Export

/-- Named columns and rows of values. -/
structure Dataset where
  fields : List String
  rows : List (List Json)

namespace Dataset

/-- The rows of a report. -/
def ofRows (rows : List Row) : Dataset where
  fields := ["username", "fullname", "postcount", "replycount"]
  rows := rows.map fun r =>
    [.string r.username, .string r.fullname, .ofInt64 r.postCount, .ofInt64 r.replyCount]

/-- The posts of a discussion. -/
def ofPosts (posts : List Post) : Dataset where
  fields := ["id", "subject", "message"]
  rows := posts.map fun p => [.ofInt64 p.id, .string p.subject, .string p.message]

/-- The text of a cell among comma-separated values: nothing for null, a string as it is, and JSON
for any other value. -/
def cellText : Json → List Char
  | .null => []
  | .string s => s.toList
  | v => v.compact

/-- The table as comma-separated values, the names of the columns first. -/
def toCsv (d : Dataset) : List Char :=
  Csv.records (d.fields.map String.toList :: d.rows.map (·.map cellText))

/-- The table as a JSON value. -/
def toJson (d : Dataset) : Json :=
  .array (d.rows.map fun row => .object (d.fields.zip row))

/-- The text of the table in a format. -/
def render (d : Dataset) : Format → String
  | .csv => String.ofList d.toCsv
  | .json => d.toJson.prettyText

end Dataset

end ForumSummary.Export
