import ForumSummary.Query.Statement
import ForumSummary.Store.Transaction

/-!
# Running a query

The four ways of asking the database for a report: the number of rows, one page of rows, all rows,
or a page with the number of rows in one transaction. All statements of a call are bound before the
first one is sent. `timeout` is the time limit of a statement in milliseconds.
-/

namespace ForumSummary.Query

/-- The number of rows of the report. -/
def countRows (q : Query) (timeout : Nat) : Session UInt64 := do
  let statement ← Session.bound q.countStatement
  Session.inTransaction timeout .commitCount (Session.count statement)

/-- The rows of one page. -/
def fetchPage (q : Query) (timeout : Nat) (request : PageRequest) : Session (List Row) := do
  let statement ← Session.bound (q.pageStatement request)
  Session.inTransaction timeout .commitFetch (Session.rows statement)

/-- All rows in the given order. -/
def fetchAll (q : Query) (timeout : Nat) (order : SortOrder) : Session (List Row) := do
  let statement ← Session.bound (q.rowStatement order)
  Session.inTransaction timeout .commitFetch (Session.rows statement)

/-- One page with the number of all rows. -/
def page (q : Query) (timeout : Nat) (request : PageRequest) : Session SummaryPage := do
  let countStatement ← Session.bound q.countStatement
  let pageStatement ← Session.bound (q.pageStatement request)
  Session.inTransaction timeout .commitReport do
    let total ← Session.count countStatement
    let rows ← Session.rows pageStatement
    return SummaryPage.ofRows rows total request

end ForumSummary.Query
