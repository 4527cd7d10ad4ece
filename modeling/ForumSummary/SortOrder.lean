import ForumSummary.Error

/-!
# Sort orders of a report

A report is sorted by a column, upwards or downwards. Names of columns are exact; names of
directions are read without regard to ASCII case.
-/

namespace ForumSummary

/-- A text with its ASCII capitals in lower case. -/
def lowerAscii (s : String) : String :=
  String.ofList (s.toList.map Char.toLower)

/-- What a report is sorted by. `fullname` is the first name, then the last name. -/
inductive SortColumn where
  | fullname
  | firstname
  | lastname
  | username
  | postCount
  | replyCount
  deriving DecidableEq, Repr

namespace SortColumn

/-- All columns, in declared order. -/
def all : List SortColumn :=
  [.fullname, .firstname, .lastname, .username, .postCount, .replyCount]

/-- The name of a column. -/
def name : SortColumn → String
  | .fullname => "fullname"
  | .firstname => "firstname"
  | .lastname => "lastname"
  | .username => "username"
  | .postCount => "postcount"
  | .replyCount => "replycount"

/-- Reads the name of a column. -/
def ofText (s : String) : Except ReportError SortColumn :=
  match all.find? (·.name = s) with
  | some c => .ok c
  | none => .error (.invalidSortColumn s)

/-- Reads a column from JSON. -/
def decode : Json.Decoder SortColumn :=
  Json.Decoder.variant (all.map fun c => (c.name, c))

theorem ofText_name (c : SortColumn) : ofText c.name = .ok c := by
  cases c <;> rfl

end SortColumn

/-- Whether a sort goes up or down. -/
inductive SortDirection where
  | asc
  | desc
  deriving DecidableEq, Repr

namespace SortDirection

/-- Both directions. -/
def all : List SortDirection :=
  [.asc, .desc]

/-- The name of a direction. -/
def name : SortDirection → String
  | .asc => "asc"
  | .desc => "desc"

/-- Reads the name of a direction in any case. -/
def ofText (s : String) : Except ReportError SortDirection :=
  match all.find? (·.name = lowerAscii s) with
  | some d => .ok d
  | none => .error (.invalidSortDirection s)

/-- Reads a direction from JSON. -/
def decode : Json.Decoder SortDirection :=
  Json.Decoder.variant (all.map fun d => (d.name, d))

theorem ofText_name (d : SortDirection) : ofText d.name = .ok d := by
  cases d <;> rfl

end SortDirection

/-- A column and a direction; the default is by full name, upwards. -/
structure SortOrder where
  column : SortColumn := .fullname
  direction : SortDirection := .asc
  deriving DecidableEq, Repr

end ForumSummary
