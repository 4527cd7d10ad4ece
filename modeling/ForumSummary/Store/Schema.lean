import ForumSummary.Store.Session

/-!
# The schema of the database

The statements that make the tables and indices where they are missing. Applying them is the work of
a migrator, which comes with the library that speaks to the database: it decides which statements
are left to be sent, and keeps a record of its own of those that were applied.
-/

namespace ForumSummary

namespace Schema

/-- The tables, each after those that it refers to. -/
def tables : List String := [
  "CREATE TABLE IF NOT EXISTS course (" ++
    "id BIGSERIAL PRIMARY KEY, " ++
    "fullname TEXT NOT NULL, " ++
    "shortname TEXT NOT NULL DEFAULT '')",
  "CREATE TABLE IF NOT EXISTS users (" ++
    "id BIGSERIAL PRIMARY KEY, " ++
    "username TEXT NOT NULL UNIQUE, " ++
    "firstname TEXT NOT NULL DEFAULT '', " ++
    "lastname TEXT NOT NULL DEFAULT '')",
  "CREATE TABLE IF NOT EXISTS enrolment (" ++
    "id BIGSERIAL PRIMARY KEY, " ++
    "course_id BIGINT NOT NULL REFERENCES course(id) ON DELETE CASCADE, " ++
    "user_id BIGINT NOT NULL REFERENCES users(id) ON DELETE CASCADE, " ++
    "UNIQUE (course_id, user_id))",
  "CREATE TABLE IF NOT EXISTS course_group (" ++
    "id BIGSERIAL PRIMARY KEY, " ++
    "course_id BIGINT NOT NULL REFERENCES course(id) ON DELETE CASCADE, " ++
    "name TEXT NOT NULL)",
  "CREATE TABLE IF NOT EXISTS group_member (" ++
    "group_id BIGINT NOT NULL REFERENCES course_group(id) ON DELETE CASCADE, " ++
    "user_id BIGINT NOT NULL REFERENCES users(id) ON DELETE CASCADE, " ++
    "PRIMARY KEY (group_id, user_id))",
  "CREATE TABLE IF NOT EXISTS forum (" ++
    "id BIGSERIAL PRIMARY KEY, " ++
    "course_id BIGINT NOT NULL REFERENCES course(id) ON DELETE CASCADE, " ++
    "name TEXT NOT NULL)",
  "CREATE TABLE IF NOT EXISTS forum_discussion (" ++
    "id BIGSERIAL PRIMARY KEY, " ++
    "forum_id BIGINT NOT NULL REFERENCES forum(id) ON DELETE CASCADE, " ++
    "user_id BIGINT NOT NULL REFERENCES users(id), " ++
    "name TEXT NOT NULL, " ++
    "timemodified BIGINT NOT NULL DEFAULT 0)",
  "CREATE TABLE IF NOT EXISTS forum_post (" ++
    "id BIGSERIAL PRIMARY KEY, " ++
    "discussion_id BIGINT NOT NULL REFERENCES forum_discussion(id) ON DELETE CASCADE, " ++
    "parent_id BIGINT REFERENCES forum_post(id) ON DELETE CASCADE, " ++
    "user_id BIGINT NOT NULL REFERENCES users(id), " ++
    "subject TEXT NOT NULL DEFAULT '', " ++
    "message TEXT NOT NULL DEFAULT '', " ++
    "created BIGINT NOT NULL)"]

/-- The indices for the look-ups of a report. -/
def indices : List String := [
  "CREATE INDEX IF NOT EXISTS enrolment_course_idx ON enrolment (course_id)",
  "CREATE INDEX IF NOT EXISTS forum_course_idx ON forum (course_id)",
  "CREATE INDEX IF NOT EXISTS forum_discussion_forum_idx ON forum_discussion (forum_id)",
  "CREATE INDEX IF NOT EXISTS forum_post_discussion_idx ON forum_post (discussion_id)",
  "CREATE INDEX IF NOT EXISTS forum_post_user_created_idx ON forum_post (user_id, created)"]

end Schema

namespace Session

/-- What applies the statements of a schema to a database. -/
abbrev Migrator :=
  List String → Session Unit

/-- Sends statements one after the other. -/
def sendAll (step : Fault.Step) : List Statement → Session Unit
  | [] => pure ()
  | s :: more => do
    send step s
    sendAll step more

/-- The migrator that keeps no record: it sends all statements, in one transaction. -/
def applyAll : Migrator := fun schema => do
  send .migrate .beginTransaction
  sendAll .migrate (schema.map .define)
  send .migrate .commit

/-- A session whose failure is told as the failure of a step. -/
def toldAs {α : Type} (step : Fault.Step) (session : Session α) : Session α := fun store =>
  match session store with
  | ⟨.ok a, sent⟩ => ⟨.ok a, sent⟩
  | ⟨.error e, sent⟩ => ⟨.error (.internal (.server step (.refused e.message))), sent⟩

/-- Makes the tables and indices that are missing. -/
def defineSchema (migrator : Migrator) : Session Unit := do
  connect .connect
  toldAs .migrate (migrator (Schema.tables ++ Schema.indices))

end Session

end ForumSummary
