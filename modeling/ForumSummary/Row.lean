import ForumSummary.Text.Blank
import ForumSummary.Json.Record

/-!
# Rows of a report

A row is a user with the number of discussions the user started and of replies the user wrote.
-/

namespace ForumSummary

/-- A user with counts of posts. `forumId` is the forum that the counts are limited to, if any. -/
structure Row where
  userId : Int64
  username : String
  firstname : String
  lastname : String
  forumId : Option Int64
  postCount : Int64
  replyCount : Int64
  deriving DecidableEq, Repr

namespace Row

/-- The name that is displayed: first and last name, without blanks around them. -/
def fullname (r : Row) : String :=
  Text.trimmed (r.firstname ++ " " ++ r.lastname)

/-- A row as JSON. -/
def toJson (r : Row) : Json :=
  .object [
    ("user_id", .ofInt64 r.userId),
    ("username", .string r.username),
    ("firstname", .string r.firstname),
    ("lastname", .string r.lastname),
    ("forum_id", .ofOption .ofInt64 r.forumId),
    ("post_count", .ofInt64 r.postCount),
    ("reply_count", .ofInt64 r.replyCount)]

open Json.Decoder in
/-- The fields of a row. -/
def record : Json.Record Row :=
  Row.mk <$> .required "user_id" int64 <*> .required "username" string
    <*> .required "firstname" string <*> .required "lastname" string
    <*> .nullable "forum_id" int64 <*> .required "post_count" int64
    <*> .required "reply_count" int64

/-- Reads a row. -/
def decode : Json.Decoder Row :=
  record.decode "struct ReportRow"

end Row

end ForumSummary
