import ForumSummary.Filter.Basic

/-!
# Report queries

A query is a course and at most one filter of each kind. Each kind has its own place in the query,
so setting a filter replaces the earlier one of its kind and touches no other, and the filters are
listed in the order of their kinds.
-/

namespace ForumSummary

/-- The course that a report is about, and the filters that narrow it. -/
structure Query where
  courseId : Int64
  forum : Option Int64 := none
  dateFrom : Option Int64 := none
  dateTo : Option Int64 := none
  groups : Option (List Int64) := none
  deriving DecidableEq, Repr

namespace Query

/-- The query over everyone enrolled in a course. -/
def ofCourse (courseId : Int64) : Query :=
  { courseId }

/-- The filter of a kind. -/
def filter (q : Query) : Filter.Kind → Option Filter
  | .forum => q.forum.map .forum
  | .dateFrom => q.dateFrom.map .dateFrom
  | .dateTo => q.dateTo.map .dateTo
  | .groups => q.groups.map .groups

/-- The filters, in the order of their kinds. -/
def filters (q : Query) : List Filter :=
  Filter.Kind.all.filterMap q.filter

/-- Puts a filter in the place of its kind. -/
def set (q : Query) : Filter → Query
  | .forum id => { q with forum := some id }
  | .dateFrom moment => { q with dateFrom := some moment }
  | .dateTo moment => { q with dateTo := some moment }
  | .groups ids => { q with groups := some ids }

/-- Clears the place of a kind. -/
def remove (q : Query) : Filter.Kind → Query
  | .forum => { q with forum := none }
  | .dateFrom => { q with dateFrom := none }
  | .dateTo => { q with dateTo := none }
  | .groups => { q with groups := none }

/-- Sets the filter of a kind from its values. -/
def add (q : Query) (kind : Filter.Kind) (values : List Int64) : Except ReportError Query :=
  (Filter.ofValues kind values).map q.set

/-- Sets the filter of a kind given by name. -/
def addNamed (q : Query) (name : String) (values : List Int64) : Except ReportError Query :=
  match Filter.Kind.ofName? name with
  | some kind => q.add kind values
  | none => .error (.unknownFilterKind name)

/-- What the filters add to a statement, in the order of their kinds. -/
def contributions (q : Query) : List Filter.Contribution :=
  q.filters.map Filter.contribution

/-- All parameters by name, the course included. -/
def params (q : Query) : List (String × Int64) :=
  ("courseid", q.courseId) :: q.contributions.flatMap (·.params)

/-! ## Laws -/

theorem kind_of_filter {q : Query} {k : Filter.Kind} {f : Filter} (h : q.filter k = some f) :
    f.kind = k := by
  cases k <;> simp only [filter, Option.map_eq_some_iff] at h <;> obtain ⟨_, _, rfl⟩ := h <;> rfl

@[simp] theorem filter_set_self (q : Query) (f : Filter) : (q.set f).filter f.kind = some f := by
  cases f <;> rfl

theorem filter_set_of_ne (q : Query) {f : Filter} {k : Filter.Kind} (h : k ≠ f.kind) :
    (q.set f).filter k = q.filter k := by
  cases f <;> cases k <;> first | rfl | exact absurd rfl h

@[simp] theorem filter_remove_self (q : Query) (k : Filter.Kind) :
    (q.remove k).filter k = none := by
  cases k <;> rfl

theorem filter_remove_of_ne (q : Query) {k l : Filter.Kind} (h : l ≠ k) :
    (q.remove k).filter l = q.filter l := by
  cases k <;> cases l <;> first | rfl | exact absurd rfl h

@[simp] theorem courseId_set (q : Query) (f : Filter) : (q.set f).courseId = q.courseId := by
  cases f <;> rfl

@[simp] theorem courseId_remove (q : Query) (k : Filter.Kind) :
    (q.remove k).courseId = q.courseId := by
  cases k <;> rfl

end Query

end ForumSummary
