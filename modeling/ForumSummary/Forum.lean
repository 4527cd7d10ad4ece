import ForumSummary.Json.Record

/-!
# Forums

A forum belongs to a course and holds discussions. A discussion is a tree of posts: the post that
started it has no parent, every other post replies to one.
-/

namespace ForumSummary

open Json.Decoder (int64 string)

/-- A forum of a course. -/
structure Forum where
  id : Int64
  courseId : Int64
  name : String
  deriving DecidableEq, Repr

namespace Forum

/-- A forum as JSON. -/
def toJson (f : Forum) : Json :=
  .object [
    ("id", .ofInt64 f.id),
    ("course_id", .ofInt64 f.courseId),
    ("name", .string f.name)]

/-- The fields of a forum. -/
def record : Json.Record Forum :=
  Forum.mk <$> .required "id" int64 <*> .required "course_id" int64 <*> .required "name" string

/-- Reads a forum. -/
def decode : Json.Decoder Forum :=
  record.decode "struct Forum"

end Forum

/-- A discussion of a forum, with the user who started it and the moment of its last change. -/
structure Discussion where
  id : Int64
  forumId : Int64
  userId : Int64
  name : String
  modified : Int64
  deriving DecidableEq, Repr

namespace Discussion

/-- A discussion as JSON. -/
def toJson (d : Discussion) : Json :=
  .object [
    ("id", .ofInt64 d.id),
    ("forum_id", .ofInt64 d.forumId),
    ("user_id", .ofInt64 d.userId),
    ("name", .string d.name),
    ("timemodified", .ofInt64 d.modified)]

/-- The fields of a discussion. -/
def record : Json.Record Discussion :=
  Discussion.mk <$> .required "id" int64 <*> .required "forum_id" int64
    <*> .required "user_id" int64 <*> .required "name" string <*> .required "timemodified" int64

/-- Reads a discussion. -/
def decode : Json.Decoder Discussion :=
  record.decode "struct Discussion"

end Discussion

/-- A post of a discussion; the one that started the discussion has no parent. -/
structure Post where
  id : Int64
  discussionId : Int64
  parentId : Option Int64
  userId : Int64
  subject : String
  message : String
  created : Int64
  deriving DecidableEq, Repr

namespace Post

/-- A post as JSON. -/
def toJson (p : Post) : Json :=
  .object [
    ("id", .ofInt64 p.id),
    ("discussion_id", .ofInt64 p.discussionId),
    ("parent_id", .ofOption .ofInt64 p.parentId),
    ("user_id", .ofInt64 p.userId),
    ("subject", .string p.subject),
    ("message", .string p.message),
    ("created", .ofInt64 p.created)]

/-- The fields of a post. -/
def record : Json.Record Post :=
  Post.mk <$> .required "id" int64 <*> .required "discussion_id" int64
    <*> .nullable "parent_id" int64 <*> .required "user_id" int64 <*> .required "subject" string
    <*> .required "message" string <*> .required "created" int64

/-- Reads a post. -/
def decode : Json.Decoder Post :=
  record.decode "struct Post"

end Post

end ForumSummary
