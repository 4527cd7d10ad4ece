/-!
# Comma-separated values

A table is written as records, one a line, of fields between commas (RFC 4180, with single line
feeds). A field that holds a comma, a quote or a line break stands in quotes, and a quote inside it
is written twice.
-/

namespace ForumSummary.Export.Csv

/-- A character that may not stand in a field without quotes. -/
def isSpecial (c : Char) : Bool :=
  c == ',' || c == '"' || c == '\n' || c == '\r'

/-- A text in which every quote is written twice. -/
def doubleQuotes (cs : List Char) : List Char :=
  cs.flatMap fun c => if c = '"' then ['"', '"'] else [c]

/-- A field. -/
def field (cs : List Char) : List Char :=
  if cs.any isSpecial then '"' :: doubleQuotes cs ++ ['"'] else cs

/-- The fields of a record with commas between them. -/
def fields : List (List Char) → List Char
  | [] => []
  | [cs] => field cs
  | cs :: rest => field cs ++ ',' :: fields rest

/-- The records of a table, each ended by a line feed. -/
def records (table : List (List (List Char))) : List Char :=
  table.flatMap fun row => fields row ++ ['\n']

/-- A field as a string. -/
def fieldText (s : String) : String :=
  String.ofList (field s.toList)

end ForumSummary.Export.Csv
