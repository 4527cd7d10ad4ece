import ForumSummary.Filter.Kind
import ForumSummary.Sql.Value

/-!
# Errors of reports

An error is a breach of contract by the code that builds a query, a record that does not exist, bad
input, or a fault of the infrastructure. Faults name the step that failed and nothing of what the
server said about it.
-/

namespace ForumSummary

/-- The steps at which the server may fail. -/
inductive Fault.Step where
  | connect
  | start
  | migrate
  | fetchCourse
  | fetchForum
  | listGroups
  | fetchDiscussion
  | listPosts
  | beginTransaction
  | setTimeout
  | countQuery
  | rowQuery
  | commitCount
  | commitFetch
  | commitReport
  deriving DecidableEq, Repr

/-- What happened at a step: the server refused, in its own words, or its answer did not have the
wanted form. -/
inductive Fault.Cause where
  | refused (text : String)
  | unreadable
  deriving DecidableEq, Repr

/-- A fault of the infrastructure. -/
inductive Fault where
  | server (step : Fault.Step) (cause : Fault.Cause)
  | negativeTotal
  | binding (e : Sql.BindError)
  | other (text : String)

/-- The wording of a step that failed. -/
def Fault.Step.message : Fault.Step → String
  | .connect => "failed to connect to PostgreSQL"
  | .start => "failed to initialize application state"
  | .migrate => "failed to run database migrations"
  | .fetchCourse => "failed to fetch course by id"
  | .fetchForum => "failed to fetch forum by id"
  | .listGroups => "failed to list course groups"
  | .fetchDiscussion => "failed to fetch latest discussion"
  | .listPosts => "failed to list discussion posts"
  | .beginTransaction => "failed to begin transaction"
  | .setTimeout => "failed to set statement timeout"
  | .countQuery => "failed to execute count query"
  | .rowQuery => "failed to execute row query"
  | .commitCount => "failed to commit count transaction"
  | .commitFetch => "failed to commit fetch transaction"
  | .commitReport => "failed to commit report transaction"

/-- The wording of a fault. It tells the step and not the cause. -/
def Fault.message : Fault → String
  | .server step _ => step.message
  | .negativeTotal => "count query returned a negative total"
  | .binding e => e.message
  | .other text => text

/-- Why a report, a download or a part of one was not made. -/
inductive ReportError where
  | unknownFilterKind (name : String)
  | invalidFilterArity (kind : Filter.Kind) (actual : Nat)
  | mismatchedFilterKey (key filter : Filter.Kind)
  | invalidSortColumn (text : String)
  | invalidSortDirection (text : String)
  | invalidExportFormat (text : String)
  | invalidGroupList (text : String)
  | invalidDate (year : Int32) (month day : UInt32)
  | forumNotFound (id : Int64)
  | courseNotFound (id : Int64)
  | discussionNotFound (forum : Int64)
  | missingScope
  | internal (fault : Fault)

namespace ReportError

/-- The wording of an error. -/
def message : ReportError → String
  | .unknownFilterKind name => "unknown filter kind '" ++ name ++ "'"
  | .invalidFilterArity kind actual =>
    "filter '" ++ kind.name ++ "' expects exactly one value(s), got " ++ Numeral.natText actual
  | .mismatchedFilterKey key filter =>
    "filter '" ++ filter.name ++ "' stored under key '" ++ key.name ++ "'"
  | .invalidSortColumn text => "unknown sort column '" ++ text ++ "'"
  | .invalidSortDirection text => "unknown sort direction '" ++ text ++ "'"
  | .invalidExportFormat text => "unsupported export format '" ++ text ++ "'"
  | .invalidGroupList text => "invalid group list '" ++ text ++ "'"
  | .invalidDate year month day =>
    "invalid date " ++ Numeral.padded 4 year.toInt ++ "-" ++ Numeral.padded 2 month.toNat ++ "-" ++
      Numeral.padded 2 day.toNat
  | .forumNotFound id => "unable to find forum with id " ++ Numeral.text id.toInt
  | .courseNotFound id => "unable to find course with id " ++ Numeral.text id.toInt
  | .discussionNotFound forum =>
    "forum " ++ Numeral.text forum.toInt ++ " has no discussions to export"
  | .missingScope => "forum id or course id must be provided to generate a forum summary report"
  | .internal fault => fault.message

/-- The error shows a mistake in the code that built a query, not in its input. -/
def isContractViolation : ReportError → Bool
  | .unknownFilterKind _ | .invalidFilterArity .. | .mismatchedFilterKey .. => true
  | _ => false

/-- The error says that a record does not exist. -/
def isNotFound : ReportError → Bool
  | .forumNotFound _ | .courseNotFound _ | .discussionNotFound _ => true
  | _ => false

end ReportError

end ForumSummary
