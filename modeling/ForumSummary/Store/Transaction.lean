import ForumSummary.Row
import ForumSummary.Store.Lookup

/-!
# Transactions

The statements of a report run in a transaction of their own, in which a statement may not take
longer than a limit. Whatever fails ends the transaction without a commit.
-/

namespace ForumSummary

/-- The row of a report in a row of the database. -/
def Row.ofCells? : List Cell → Option Row
  | .integer userId :: .text username :: .text firstname :: .text lastname :: forum ::
      .integer postCount :: .integer replyCount :: _ =>
    forum.optionalInteger?.map fun forumId =>
      { userId, username, firstname, lastname, forumId, postCount, replyCount }
  | _ => none

namespace Session

/-- Runs a session between the start and the commit of a transaction with a time limit in
milliseconds. -/
def inTransaction {α : Type} (timeout : Nat) (commitStep : Fault.Step) (body : Session α) :
    Session α := do
  send .beginTransaction .beginTransaction
  send .setTimeout (.setTimeout timeout)
  let a ← body
  send commitStep .commit
  return a

/-- The number in the first column of the first row. -/
def readNumber : List (List Cell) → Option Int64
  | (.integer n :: _) :: _ => some n
  | _ => none

/-- Runs a statement that counts. -/
def count (statement : Sql.Bound) : Session UInt64 := do
  let n ← ask .countQuery (.count statement) readNumber
  if n < 0 then fail (.internal .negativeTotal) else return UInt64.ofNat n.toInt.toNat

/-- Runs a statement for rows of a report. -/
def rows (statement : Sql.Bound) : Session (List Row) :=
  ask .rowQuery (.rows statement) (readAll Row.ofCells?)

/-- Binds a statement. -/
def bound (s : Sql.Select) : Session Sql.Bound :=
  ofExcept (s.bind.mapError fun e => .internal (.binding e))

end Session

end ForumSummary
