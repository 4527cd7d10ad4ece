import ForumSummary.Store.Lookup

/-!
# Scopes

A report is about one forum or about all forums of a course. A positive forum id decides, and then
the course is the one that the forum belongs to.
-/

namespace ForumSummary.Report

/-- What a report is about. -/
structure Scope where
  courseId : Int64
  /-- The forum, unless the report is about all forums of the course. -/
  forum : Option Forum
  title : String
  deriving DecidableEq, Repr

namespace Scope

/-- The scope of one forum. -/
def ofForum (f : Forum) : Scope :=
  ⟨f.courseId, some f, "Summary report - " ++ f.name⟩

/-- The scope of all forums of a course. -/
def ofCourse (courseId : Int64) : Scope :=
  ⟨courseId, none, "Summary report - All forums"⟩

/-- The id of the forum. -/
def forumId (s : Scope) : Option Int64 :=
  s.forum.map (·.id)

/-- The scope that ids name. -/
def resolve (courseId forumId : Int64) : Session Scope :=
  if 0 < forumId then do
    let forum ← Session.forum? forumId
    Session.orFail (.forumNotFound forumId) (forum.map ofForum)
  else if 0 < courseId then do
    let course ← Session.course? courseId
    Session.orFail (.courseNotFound courseId) (course.map fun c => ofCourse c.id)
  else Session.fail .missingScope

end Scope

end ForumSummary.Report
