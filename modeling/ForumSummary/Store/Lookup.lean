import ForumSummary.Course
import ForumSummary.Forum
import ForumSummary.Store.Session

/-!
# Look-ups

Sessions of one statement that find records of the learning platform. A column that may not be null
must hold a value of its type. A look-up of one record takes the first row and does not look at
others; a look-up of many needs every row.
-/

namespace ForumSummary

/-- A number that may be null. -/
def Cell.optionalInteger? : Cell → Option (Option Int64)
  | .null => some none
  | .integer n => some (some n)
  | .text _ => none

/-! ## Rows as records -/

/-- The course in a row. -/
def Course.ofCells? : List Cell → Option Course
  | .integer id :: .text fullname :: .text shortname :: _ => some { id, fullname, shortname }
  | _ => none

/-- The group in a row. -/
def CourseGroup.ofCells? : List Cell → Option CourseGroup
  | .integer id :: .integer courseId :: .text name :: _ => some { id, courseId, name }
  | _ => none

/-- The forum in a row. -/
def Forum.ofCells? : List Cell → Option Forum
  | .integer id :: .integer courseId :: .text name :: _ => some { id, courseId, name }
  | _ => none

/-- The discussion in a row. -/
def Discussion.ofCells? : List Cell → Option Discussion
  | .integer id :: .integer forumId :: .integer userId :: .text name :: .integer modified :: _ =>
    some { id, forumId, userId, name, modified }
  | _ => none

/-- The post in a row. -/
def Post.ofCells? : List Cell → Option Post
  | .integer id :: .integer discussionId :: parent :: .integer userId :: .text subject ::
      .text message :: .integer created :: _ =>
    parent.optionalInteger?.map fun parentId =>
      { id, discussionId, parentId, userId, subject, message, created }
  | _ => none

namespace Session

/-- The record in the first row, if there is a row. -/
def readFirst {α : Type} (ofCells? : List Cell → Option α) : List (List Cell) → Option (Option α)
  | [] => some none
  | row :: _ => (ofCells? row).map some

/-- The records in all rows. -/
def readAll {α : Type} (ofCells? : List Cell → Option α) (rows : List (List Cell)) :
    Option (List α) :=
  rows.mapM ofCells?

/-- The course of an id. -/
def course? (id : Int64) : Session (Option Course) :=
  ask .fetchCourse (.course id) (readFirst Course.ofCells?)

/-- The groups of a course, by name. -/
def courseGroups (courseId : Int64) : Session (List CourseGroup) :=
  ask .listGroups (.courseGroups courseId) (readAll CourseGroup.ofCells?)

/-- The forum of an id. -/
def forum? (id : Int64) : Session (Option Forum) :=
  ask .fetchForum (.forum id) (readFirst Forum.ofCells?)

/-- The discussion of a forum that changed last. -/
def latestDiscussion? (forumId : Int64) : Session (Option Discussion) :=
  ask .fetchDiscussion (.latestDiscussion forumId) (readFirst Discussion.ofCells?)

/-- The posts of a discussion, in the order in which they were written. -/
def posts (discussionId : Int64) : Session (List Post) :=
  ask .listPosts (.posts discussionId) (readAll Post.ofCells?)

/-- The value of an option, or a failure. -/
def orFail {α : Type} (e : ReportError) : Option α → Session α
  | some a => pure a
  | none => fail e

end Session

end ForumSummary
