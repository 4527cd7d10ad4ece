import ForumSummary.Report.Plan

/-!
# Report views

A view is one page of a report together with what it is about and the filters that were applied.
-/

namespace ForumSummary.Report

/-- A page of a report with its filters. -/
structure View where
  title : String
  courseId : Int64
  forumId : Option Int64
  groups : List GroupOption
  selectedGroups : List Int64
  dateFrom : Option Int64
  dateTo : Option Int64
  page : SummaryPage
  deriving DecidableEq, Repr

namespace View

/-- The view of a page made by a plan. -/
def of (plan : Plan) (request : Request) (page : SummaryPage) : View where
  title := plan.scope.title
  courseId := plan.scope.courseId
  forumId := plan.scope.forumId
  groups := plan.groups.options
  selectedGroups := plan.groups.selected
  dateFrom := request.lowerBound
  dateTo := request.upperBound
  page

/-- The page that a request asks for. -/
def make (settings : Settings) (request : Request) : Session View := do
  let plan ← Plan.prepare request
  let page ← plan.query.page settings.timeout (settings.limits.pageRequest request)
  return of plan request page

/-- The filters of a view as JSON. -/
def filtersJson (v : View) : Json :=
  .object [
    ("groups", .ofList GroupOption.toJson v.groups),
    ("selected_groups", .ofList .ofInt64 v.selectedGroups),
    ("datefrom", .ofOption .ofInt64 v.dateFrom),
    ("dateto", .ofOption .ofInt64 v.dateTo)]

/-- A view as JSON. The members of the page stand among those of the view. -/
def toJson (v : View) : Json :=
  .object ([
    ("title", .string v.title),
    ("course_id", .ofInt64 v.courseId),
    ("forum_id", .ofOption .ofInt64 v.forumId),
    ("filters", v.filtersJson)] ++ v.page.members)

end View

end ForumSummary.Report
