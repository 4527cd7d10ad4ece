import ForumSummary.Query.Session
import ForumSummary.Report.Groups
import ForumSummary.Report.Request
import ForumSummary.Report.Scope

/-!
# Report plans

A plan is a request looked up in the database: its scope, its group selection, and the query that
follows from them.
-/

namespace ForumSummary.Report

/-- A request looked up in the database. -/
structure Plan where
  scope : Scope
  groups : GroupSelection
  query : Query
  deriving DecidableEq, Repr

namespace Plan

/-- The filters of a report, each as a kind and values: the forum of its scope, the selected groups,
and the bounds of the request. -/
def filters (scope : Scope) (groups : GroupSelection) (request : Request) :
    List (Filter.Kind × List Int64) :=
  (scope.forumId.toList.map fun id => (.forum, [id])) ++ [(.groups, groups.selected)] ++
    (request.lowerBound.toList.map fun moment => (.dateFrom, [moment])) ++
    (request.upperBound.toList.map fun moment => (.dateTo, [moment]))

/-- The plan of a report on a scope with the given groups. -/
def of (scope : Scope) (groups : GroupSelection) (request : Request) : Except ReportError Plan := do
  let query ← (filters scope groups request).foldlM (fun q f => q.add f.1 f.2)
    (Query.ofCourse scope.courseId)
  return { scope, groups, query }

/-- The plan for a request. -/
def prepare (request : Request) : Session Plan := do
  let scope ← Scope.resolve request.courseId request.forumId
  let courseGroups ← Session.courseGroups scope.courseId
  Session.ofExcept (of scope (GroupSelection.ofRequest courseGroups request.groups) request)

end Plan

end ForumSummary.Report
