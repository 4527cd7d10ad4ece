import ForumSummary.Sql.Bound

/-!
# Statements that are sent

Everything that this library says to the database: look-ups of single tables, the statements of a
report, control of transactions, a sign of life, and definitions of the schema.
-/

namespace ForumSummary

/-- A statement for the database. -/
inductive Statement where
  | ping
  | course (id : Int64)
  | courseGroups (courseId : Int64)
  | forum (id : Int64)
  | latestDiscussion (forumId : Int64)
  | posts (discussionId : Int64)
  | beginTransaction
  | setTimeout (milliseconds : Nat)
  | count (b : Sql.Bound)
  | rows (b : Sql.Bound)
  | commit
  | define (text : String)

namespace Statement

/-- The text of a statement. -/
def text : Statement → String
  | .ping => "SELECT 1"
  | .course _ => "SELECT id, fullname, shortname FROM course WHERE id = $1"
  | .courseGroups _ =>
    "SELECT id, course_id, name FROM course_group WHERE course_id = $1 ORDER BY name, id"
  | .forum _ => "SELECT id, course_id, name FROM forum WHERE id = $1"
  | .latestDiscussion _ =>
    "\n            SELECT id, forum_id, user_id, name, timemodified" ++
    "\n            FROM forum_discussion" ++
    "\n            WHERE forum_id = $1" ++
    "\n            ORDER BY timemodified DESC, id DESC" ++
    "\n            LIMIT 1" ++
    "\n            "
  | .posts _ =>
    "\n            SELECT id, discussion_id, parent_id, user_id, subject, message, created" ++
    "\n            FROM forum_post" ++
    "\n            WHERE discussion_id = $1" ++
    "\n            ORDER BY created, id" ++
    "\n            "
  | .beginTransaction => "BEGIN"
  | .setTimeout milliseconds => "SET LOCAL statement_timeout = " ++ Numeral.natText milliseconds
  | .count b => b.text
  | .rows b => b.text
  | .commit => "COMMIT"
  | .define text => text

/-- The arguments of a statement. -/
def arguments : Statement → List Sql.Argument
  | .course id => [.int8 (some id)]
  | .courseGroups courseId => [.int8 (some courseId)]
  | .forum id => [.int8 (some id)]
  | .latestDiscussion forumId => [.int8 (some forumId)]
  | .posts discussionId => [.int8 (some discussionId)]
  | .count b => b.arguments
  | .rows b => b.arguments
  | _ => []

end Statement

end ForumSummary
