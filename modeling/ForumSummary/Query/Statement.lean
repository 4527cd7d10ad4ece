import ForumSummary.Page
import ForumSummary.Query.Basic

/-!
# The statements of a query

Every statement of a query is about the same rows (`Query.base`): users enrolled in the course, each
joined with the posts that the user wrote in the course's forums and that the forum and date filters
let through. A user without such a post keeps one row, unless a date filter is set. The count
statement counts distinct users; the row statements have one group for each user, add up posts and
replies, and end their order with the user's id, so that no two users are tied.
-/

namespace ForumSummary.Query

/-- The posts in the course's forums, with the forum of each. -/
def coursePosts (q : Query) : Sql.Subselect where
  columns := [⟨"fp", "id"⟩, ⟨"fp", "user_id"⟩, ⟨"fp", "parent_id"⟩, ⟨"fp", "created"⟩,
    ⟨"fd", "forum_id"⟩]
  source := ⟨"forum_post", "fp"⟩
  joins := [
    ⟨⟨"forum_discussion", "fd"⟩, .sameColumn ⟨"fd", "id"⟩ ⟨"fp", "discussion_id"⟩⟩,
    ⟨⟨"forum", "f"⟩, .sameColumn ⟨"f", "id"⟩ ⟨"fd", "forum_id"⟩⟩]
  condition := .compare ⟨"f", "course_id"⟩ .equal (.bigInt q.courseId)

/-- The conditions under which a post counts for a user: the user wrote it, and the filters let it
through. -/
def postTests (q : Query) : List Sql.RowTest :=
  .sameColumn (postColumn "user_id") (userColumn "id") :: q.contributions.flatMap (·.postTests)

/-- A user without a counted post is left out. -/
def requiresPost (q : Query) : Bool :=
  q.contributions.any (·.requiresPost)

/-- The conditions on the users that are listed. -/
def conditions (q : Query) : List Sql.Condition :=
  .row (.compare (enrolmentColumn "course_id") .equal (.bigInt q.courseId)) ::
    q.contributions.flatMap (·.conditions) ++
    if q.requiresPost then [.row (.isNotNull (postColumn "id"))] else []

/-- The rows that all statements of a query are about, under a select list. -/
def base (q : Query) (outputs : List Sql.Output) : Sql.Select where
  outputs
  source := ⟨"enrolment", "e"⟩
  joins := [
    .inner ⟨⟨"users", "u"⟩, .sameColumn (userColumn "id") (enrolmentColumn "user_id")⟩,
    .left q.coursePosts "p" q.postTests]
  conditions := q.conditions
  groupBy := []
  orderBy := []
  window := none

/-- The statement that counts the listed users. -/
def countStatement (q : Query) : Sql.Select :=
  q.base [⟨.countDistinct (userColumn "id"), none⟩]

/-- The forum of the counts: the filtered one, or null for all forums. -/
def forumOutputs (q : Query) : List Sql.Output :=
  match q.contributions.flatMap (·.outputs) with
  | [] => [⟨.nullBigInt, some "forum_id"⟩]
  | outputs => outputs

/-- A post that starts a discussion has no parent. -/
def startedTests : List Sql.RowTest :=
  [.isNotNull (postColumn "id"), .isNull (postColumn "parent_id")]

/-- A reply has a parent. -/
def repliedTests : List Sql.RowTest :=
  [.isNotNull (postColumn "parent_id")]

/-- The select list of the row statements. -/
def rowOutputs (q : Query) : List Sql.Output :=
  [⟨.column (userColumn "id"), some "user_id"⟩, ⟨.column (userColumn "username"), none⟩,
    ⟨.column (userColumn "firstname"), none⟩, ⟨.column (userColumn "lastname"), none⟩] ++
  q.forumOutputs ++
  [⟨.sumWhere startedTests (.int 1) (.int 0), some "post_count"⟩,
    ⟨.sumWhere repliedTests (.int 1) (.int 0), some "reply_count"⟩]

/-- The keys of a column's order. -/
def sortKeys : SortColumn → List Sql.SortKey
  | .fullname => [.column (userColumn "firstname"), .column (userColumn "lastname")]
  | .firstname => [.column (userColumn "firstname")]
  | .lastname => [.column (userColumn "lastname")]
  | .username => [.column (userColumn "username")]
  | .postCount => [.output "post_count"]
  | .replyCount => [.output "reply_count"]

/-- The terms of an order. The user's id, upwards, is always the last. -/
def sortTerms (order : SortOrder) : List Sql.SortTerm :=
  (sortKeys order.column).map (⟨·, order.direction = .desc⟩) ++
    [⟨.column (userColumn "id"), false⟩]

/-- The statement for all rows in the given order. -/
def rowStatement (q : Query) (order : SortOrder) : Sql.Select :=
  { q.base q.rowOutputs with
    groupBy := [userColumn "id", userColumn "username", userColumn "firstname",
      userColumn "lastname"]
    orderBy := sortTerms order }

/-- The statement for the rows of one page. -/
def pageStatement (q : Query) (request : PageRequest) : Sql.Select :=
  { q.rowStatement request.order with
    window := some ⟨request.size.toUInt64, request.start⟩ }

end ForumSummary.Query
