import ForumSummary.Json.Record

/-!
# Courses

A course has participants and forums. Its participants may be put into groups.
-/

namespace ForumSummary

open Json.Decoder (int64 string)

/-- A course. -/
structure Course where
  id : Int64
  fullname : String
  shortname : String
  deriving DecidableEq, Repr

namespace Course

/-- A course as JSON. -/
def toJson (c : Course) : Json :=
  .object [
    ("id", .ofInt64 c.id),
    ("fullname", .string c.fullname),
    ("shortname", .string c.shortname)]

/-- The fields of a course. -/
def record : Json.Record Course :=
  Course.mk <$> .required "id" int64 <*> .required "fullname" string
    <*> .required "shortname" string

/-- Reads a course. -/
def decode : Json.Decoder Course :=
  record.decode "struct Course"

end Course

/-- A group of participants of a course. -/
structure CourseGroup where
  id : Int64
  courseId : Int64
  name : String
  deriving DecidableEq, Repr

namespace CourseGroup

/-- A group as JSON. -/
def toJson (g : CourseGroup) : Json :=
  .object [
    ("id", .ofInt64 g.id),
    ("course_id", .ofInt64 g.courseId),
    ("name", .string g.name)]

/-- The fields of a group. -/
def record : Json.Record CourseGroup :=
  CourseGroup.mk <$> .required "id" int64 <*> .required "course_id" int64
    <*> .required "name" string

/-- Reads a group. -/
def decode : Json.Decoder CourseGroup :=
  record.decode "struct CourseGroup"

end CourseGroup

end ForumSummary
