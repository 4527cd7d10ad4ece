import ForumSummary.Course
import ForumSummary.Filter.Basic

/-!
# Group selections

A request names groups by id. What is selected is either all groups, written as the single id
`allGroups`, or the groups of the course that were named, in the order of the course.
-/

namespace ForumSummary.Report

/-- A choice offered by the groups filter. -/
structure GroupOption where
  id : Int64
  name : String
  checked : Bool
  deriving DecidableEq, Repr

/-- A choice as JSON. -/
def GroupOption.toJson (o : GroupOption) : Json :=
  .object [
    ("groupid", .ofInt64 o.id),
    ("groupname", .string o.name),
    ("checked", .bool o.checked)]

/-- The choices of the groups filter and the ids that are selected. -/
structure GroupSelection where
  options : List GroupOption
  selected : List Int64
  deriving DecidableEq, Repr

namespace GroupSelection

/-- The named groups of a course, in the order of the course. -/
def named (groups : List CourseGroup) (requested : List Int64) : List Int64 :=
  if allGroups ∈ requested then [] else (groups.map (·.id)).filter (· ∈ requested)

/-- The ids that a request selects: all groups when it names no group of the course. -/
def select (groups : List CourseGroup) (requested : List Int64) : List Int64 :=
  match named groups requested with
  | [] => [allGroups]
  | ids => ids

/-- The selection for the groups of a course and a request. The choice of all groups comes first. -/
def ofRequest (groups : List CourseGroup) (requested : List Int64) : GroupSelection :=
  let selected := select groups requested
  { options := ⟨allGroups, "All groups", allGroups ∈ selected⟩ ::
      groups.map fun g => ⟨g.id, g.name, g.id ∈ selected⟩
    selected }

/-- The selection does not restrict a report. -/
def isAllGroups (s : GroupSelection) : Bool :=
  allGroups ∈ s.selected

/-- A selection as JSON. -/
def toJson (s : GroupSelection) : Json :=
  .object [
    ("options", .ofList GroupOption.toJson s.options),
    ("selected", .ofList .ofInt64 s.selected)]

end GroupSelection

end ForumSummary.Report
