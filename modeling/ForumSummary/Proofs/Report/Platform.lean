import ForumSummary.Forum
import ForumSummary.Proofs.Report.SourceRows

/-!
# What a report is to say

The tables of a learning platform as a report reads them (`Platform`), with the values that may not
be null as plain values. On them it can be said without joins which posts count for a user
(`Platform.Counts`), which users a query lists (`Platform.Lists`), and what the row of a user is
(`Platform.reportRow`).
-/

namespace ForumSummary

open Sql (Datum Record Database ResultRow)

/-- A user of the platform. -/
structure User where
  id : Int64
  username : String
  firstname : String
  lastname : String
  deriving DecidableEq, Repr

/-- The enrolment of a user in a course. -/
structure Enrolment where
  id : Int64
  courseId : Int64
  userId : Int64
  deriving DecidableEq, Repr

/-- The membership of a user in a group. -/
structure Membership where
  groupId : Int64
  userId : Int64
  deriving DecidableEq, Repr

/-! ## Records -/

/-- An integer of the platform as a value in a table. -/
def Sql.Datum.ofInt64 (n : Int64) : Datum :=
  .integer n.toInt

@[simp] theorem Sql.Datum.ofInt64_inj {m n : Int64} : ofInt64 m = ofInt64 n ↔ m = n := by
  rw [ofInt64, ofInt64, integer.injEq, Int64.toInt_inj]

@[simp] theorem Sql.Datum.ofInt64_ne_null (n : Int64) : ofInt64 n ≠ null :=
  Datum.noConfusion

theorem Sql.Datum.same_ofInt64_iff {m n : Int64} :
    (ofInt64 m).same (ofInt64 n) = .yes ↔ m = n := by
  rw [same_eq_yes_iff, ofInt64_inj]
  exact and_iff_left (ofInt64_ne_null m)

theorem Sql.Datum.compare_ofInt64_iff {op : Sql.Comparison} {m n : Int64} :
    (ofInt64 m).compare op n.toInt = .yes ↔ op.holds m.toInt n.toInt = true :=
  Sql.Truth.ofBool_eq_yes_iff

theorem Sql.Datum.compare_equal_ofInt64_iff {m n : Int64} :
    (ofInt64 m).compare .equal n.toInt = .yes ↔ m = n := by
  rw [compare_ofInt64_iff, Sql.Comparison.holds, decide_eq_true_eq, Int64.toInt_inj]

/-- A user as a record of the table `users`. -/
def User.toRecord (u : User) : Record
  | "id" => .ofInt64 u.id
  | "username" => .text u.username
  | "firstname" => .text u.firstname
  | "lastname" => .text u.lastname
  | _ => .null

/-- An enrolment as a record of the table `enrolment`. -/
def Enrolment.toRecord (e : Enrolment) : Record
  | "id" => .ofInt64 e.id
  | "course_id" => .ofInt64 e.courseId
  | "user_id" => .ofInt64 e.userId
  | _ => .null

/-- A membership as a record of the table `group_member`. -/
def Membership.toRecord (m : Membership) : Record
  | "group_id" => .ofInt64 m.groupId
  | "user_id" => .ofInt64 m.userId
  | _ => .null

/-- A forum as a record of the table `forum`. -/
def Forum.toRecord (f : Forum) : Record
  | "id" => .ofInt64 f.id
  | "course_id" => .ofInt64 f.courseId
  | "name" => .text f.name
  | _ => .null

/-- A discussion as a record of the table `forum_discussion`. -/
def Discussion.toRecord (d : Discussion) : Record
  | "id" => .ofInt64 d.id
  | "forum_id" => .ofInt64 d.forumId
  | "user_id" => .ofInt64 d.userId
  | "name" => .text d.name
  | "timemodified" => .ofInt64 d.modified
  | _ => .null

/-- A post as a record of the table `forum_post`. -/
def Post.toRecord (p : Post) : Record
  | "id" => .ofInt64 p.id
  | "discussion_id" => .ofInt64 p.discussionId
  | "parent_id" => p.parentId.elim .null .ofInt64
  | "user_id" => .ofInt64 p.userId
  | "subject" => .text p.subject
  | "message" => .text p.message
  | "created" => .ofInt64 p.created
  | _ => .null

/-! ## Tables -/

/-- The tables that a report reads, with the keys that its meaning rests on: users, forums and
discussions have ids of their own, and nobody is enrolled in a course twice. -/
structure Platform where
  users : Multiset User
  enrolments : Multiset Enrolment
  memberships : Multiset Membership
  forums : Multiset Forum
  discussions : Multiset Discussion
  posts : Multiset Post
  nodup_users : (users.map (·.id)).Nodup
  nodup_enrolments : (enrolments.map fun e => (e.courseId, e.userId)).Nodup
  nodup_forums : (forums.map (·.id)).Nodup
  nodup_discussions : (discussions.map (·.id)).Nodup

namespace Platform

/-- The tables by name. -/
def tables (db : Platform) : Database
  | "users" => db.users.map User.toRecord
  | "enrolment" => db.enrolments.map Enrolment.toRecord
  | "group_member" => db.memberships.map Membership.toRecord
  | "forum" => db.forums.map Forum.toRecord
  | "forum_discussion" => db.discussions.map Discussion.toRecord
  | "forum_post" => db.posts.map Post.toRecord
  | _ => 0

/-- A small platform. Two users are enrolled in course 7; one of them has a post and a reply to it
in a forum of the course, the other has a post in a forum of another course. -/
def sample : Platform where
  users := {⟨1, "ada", "Ada", "Lovelace"⟩, ⟨2, "learner", "Learner", "Two"⟩,
    ⟨3, "guest", "Guest", "Three"⟩}
  enrolments := {⟨1, 7, 1⟩, ⟨2, 7, 2⟩}
  memberships := {⟨5, 1⟩}
  forums := {⟨10, 7, "News"⟩, ⟨11, 8, "Other"⟩}
  discussions := {⟨20, 10, 1, "Welcome", 0⟩, ⟨21, 11, 2, "Elsewhere", 0⟩}
  posts := {⟨30, 20, none, 1, "", "", 100⟩, ⟨31, 20, some 30, 1, "", "", 200⟩,
    ⟨32, 21, none, 2, "", "", 100⟩}
  nodup_users := by decide
  nodup_enrolments := by decide
  nodup_forums := by decide
  nodup_discussions := by decide

/-- The ids of the users are unique in the tables too. -/
theorem unique_users (db : Platform) : Sql.Unique (db.tables "users") ["id"] := by
  have hkeys : (db.tables "users").map (fun r => ["id"].map r) =
      (db.users.map (·.id)).map fun id => [Datum.ofInt64 id] := by
    rw [Multiset.map_map]
    exact Multiset.map_map _ _ _
  unfold Sql.Unique
  rw [hkeys]
  refine Multiset.Nodup.filter _ (db.nodup_users.map fun m n h => ?_)
  exact Datum.ofInt64_inj.1 (List.singleton_inj.1 h)

theorem numeric_users (db : Platform) : Sql.Numeric (db.tables "users") "id" := by
  intro r hr t
  obtain ⟨u, -, rfl⟩ := Multiset.mem_map.1 hr
  exact Datum.noConfusion

/-! ## The meaning of a report -/

variable (db : Platform) (q : Query)

/-- A post is in a forum of the course, and in the filtered forum if there is one. -/
def InScope (p : Post) : Prop :=
  ∃ d ∈ db.discussions, d.id = p.discussionId ∧ ∃ f ∈ db.forums, f.id = d.forumId ∧
    f.courseId = q.courseId ∧ ∀ id ∈ q.forum, f.id = id

/-- A post counts for a user: the user wrote it where the query looks, and when. -/
def Counts (u : User) (p : Post) : Prop :=
  p.userId = u.id ∧ db.InScope q p ∧ (∀ moment ∈ q.dateFrom, moment ≤ p.created) ∧
    ∀ moment ∈ q.dateTo, p.created ≤ moment

/-- A user is in one of the groups that are asked for, if any are. -/
def InGroups (u : User) : Prop :=
  ∀ ids ∈ q.groups, ids ≠ [] → allGroups ∉ ids →
    ∃ m ∈ db.memberships, m.userId = u.id ∧ m.groupId ∈ ids

/-- A query lists a user: one who is enrolled in the course, is in the groups, and has a post that
counts if the query has a date filter. -/
def Lists (u : User) : Prop :=
  (∃ e ∈ db.enrolments, e.courseId = q.courseId ∧ e.userId = u.id) ∧ db.InGroups q u ∧
    (q.dateFrom ≠ none ∨ q.dateTo ≠ none → ∃ p ∈ db.posts, db.Counts q u p)

-- Integers are finitely many, so without this a value that is set would be looked for among all.
instance decidableForallMem {α : Type} (o : Option α) (P : α → Prop) [DecidablePred P] :
    Decidable (∀ a ∈ o, P a) :=
  Option.decidableForallMem o

instance (p : Post) : Decidable (db.InScope q p) :=
  inferInstanceAs (Decidable (∃ d ∈ db.discussions, _))

instance (u : User) (p : Post) : Decidable (db.Counts q u p) :=
  inferInstanceAs (Decidable (_ ∧ _))

instance (u : User) : Decidable (db.InGroups q u) :=
  inferInstanceAs (Decidable (∀ ids ∈ q.groups, _))

instance (u : User) : Decidable (db.Lists q u) :=
  inferInstanceAs (Decidable (_ ∧ _))

/-- The row of a user: who it is, the filtered forum, and the numbers of counted posts that started
a discussion and that replied to a post. -/
def reportRow (u : User) : ResultRow :=
  [("user_id", .ofInt64 u.id), ("username", .text u.username), ("firstname", .text u.firstname),
    ("lastname", .text u.lastname), ("forum_id", q.forum.elim .null .ofInt64),
    ("post_count", .integer (db.posts.filter fun p => db.Counts q u p ∧ p.parentId = none).card),
    ("reply_count", .integer (db.posts.filter fun p => db.Counts q u p ∧ p.parentId ≠ none).card)]

end Platform

end ForumSummary
