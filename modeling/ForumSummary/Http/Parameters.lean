import ForumSummary.Export.Format
import ForumSummary.Http.Url
import ForumSummary.Report.GroupList
import ForumSummary.Report.Request

/-!
# Parameters of routes

The parameters of a route are the pairs of its query whose names it knows. They are taken in order:
a name that comes twice and a number that does not read are refused where they stand. After that,
texts are read as what they name, with blanks around them cut off and blank ones taken as absent.
-/

namespace ForumSummary.Http

/-- Why the query of a target is refused. -/
inductive QueryError where
  | duplicate (name : String)
  | number (name : String) (e : Numeral.Error)
  deriving DecidableEq, Repr

/-- The wording of a refusal. -/
def QueryError.message : QueryError → String
  | .duplicate name => "Failed to deserialize query string: duplicate field " ++ Json.ticked name
  | .number name e => "Failed to deserialize query string: " ++ name ++ ": " ++ e.message

/-- Fills a parameter that is still empty. -/
def fill {α : Type} (name : String) (current : Option α) (value : Except Numeral.Error α) :
    Except QueryError (Option α) :=
  match current with
  | some _ => .error (.duplicate name)
  | none =>
    match value with
    | .ok a => .ok (some a)
    | .error e => .error (.number name e)

/-- A text without blanks around it, unless nothing is left. -/
def present (text : Option String) : Option String :=
  (text.map Text.trimmed).filter (· ≠ "")

/-- The parameters of the summary. -/
structure SummaryParameters where
  courseId : Option Int64 := none
  forumId : Option Int64 := none
  perPage : Option UInt32 := none
  page : Option UInt32 := none
  sort : Option String := none
  direction : Option String := none
  groups : Option String := none
  dateFrom : Option Int64 := none
  dateTo : Option Int64 := none
  download : Option String := none
  deriving DecidableEq, Repr

namespace SummaryParameters

/-- Takes a pair in. -/
def put (p : SummaryParameters) (pair : String × String) : Except QueryError SummaryParameters :=
  let (name, text) := pair
  let digits := text.toList
  match name with
  | "courseid" => do
    return { p with courseId := ← fill name p.courseId (Numeral.readInt64 digits) }
  | "forumid" => do
    return { p with forumId := ← fill name p.forumId (Numeral.readInt64 digits) }
  | "perpage" => do
    return { p with perPage := ← fill name p.perPage (Numeral.readUInt32 digits) }
  | "page" => do return { p with page := ← fill name p.page (Numeral.readUInt32 digits) }
  | "tsort" => do return { p with sort := ← fill name p.sort (.ok text) }
  | "tdir" => do return { p with direction := ← fill name p.direction (.ok text) }
  | "groups" => do return { p with groups := ← fill name p.groups (.ok text) }
  | "datefrom" => do
    return { p with dateFrom := ← fill name p.dateFrom (Numeral.readInt64 digits) }
  | "dateto" => do return { p with dateTo := ← fill name p.dateTo (Numeral.readInt64 digits) }
  | "download" => do return { p with download := ← fill name p.download (.ok text) }
  | _ => .ok p

/-- The parameters in the pairs of a query. -/
def ofPairs (pairs : List (String × String)) : Except QueryError SummaryParameters :=
  pairs.foldlM put {}

/-- Reads a text parameter if it is there. -/
def readPresent {α : Type} (text : Option String) (read : String → Except ReportError α) :
    Except ReportError (Option α) :=
  match present text with
  | none => .ok none
  | some s => (read s).map some

/-- The request of the parameters, and the format if it is for a download. -/
def toRequest (p : SummaryParameters) :
    Except ReportError (Report.Request × Option Export.Format) := do
  let column ← readPresent p.sort SortColumn.ofText
  let direction ← readPresent p.direction SortDirection.ofText
  let groups ← readPresent p.groups Report.groupsOfText
  let format ← readPresent p.download Export.Format.ofText
  let request : Report.Request := {
    courseId := p.courseId.getD 0
    forumId := p.forumId.getD 0
    groups := groups.getD []
    dateFrom := p.dateFrom
    dateTo := p.dateTo
    page := p.page.getD 1
    perPage := p.perPage
    order := ⟨column.getD .fullname, direction.getD .asc⟩ }
  return (request, format)

end SummaryParameters

/-- The text of the format in the pairs of a query for a discussion. -/
def formatOfPairs (pairs : List (String × String)) : Except QueryError (Option String) :=
  pairs.foldlM
    (fun current (name, text) =>
      if name = "format" then fill name current (.ok text) else .ok current)
    none

/-- The format of a discussion's download. A text that is not empty is read as it is. -/
def discussionFormat (text : Option String) : Except ReportError Export.Format :=
  match text.filter (· ≠ "") with
  | some s => Export.Format.ofText s
  | none => .ok .csv

end ForumSummary.Http
