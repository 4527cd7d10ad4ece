import ForumSummary.Proofs.Report.Platform
import ForumSummary.Proofs.Sql.Order

/-!
# The total of a report

The count statement counts the ids of the users in the rows that the row statements put into groups,
so the total is the number of rows of the report (`countStatement_answers_iff_length`). It is enough
that the ids of the users are unique; enrolments may be doubled and posts may repeat.
-/

namespace ForumSummary.Query

open Sql

variable {collation : Collation} {db : Database} {q : Query} {order : SortOrder}

/-- The count statement returns the number of user ids in the rows, whatever the collation. -/
theorem countStatement_answers_iff (counted : List ResultRow) :
    q.countStatement.Answers collation db counted ↔ counted =
      [[("count", .integer ((q.sourceRows db).map (· (userColumn "id"))).dedup.card)]] := by
  have hids : ((q.sourceRows db).map (· (userColumn "id"))).filter (· ≠ .null) =
      (q.sourceRows db).map (· (userColumn "id")) := by
    refine Multiset.filter_eq_self.2 fun d hd => ?_
    obtain ⟨e, he, rfl⟩ := Multiset.mem_map.1 hd
    obtain ⟨u, -, hne, hcols⟩ := exists_user_of_mem he
    rw [hcols]
    exact hne
  have hgs : q.countStatement.Arranges collation db [⟨Env.empty, q.sourceRows db⟩] :=
    ⟨rfl, List.pairwise_singleton _ _⟩
  rw [Select.answers_iff_of_unique hgs fun gs hgs' => Multiset.coe_eq_singleton.1 hgs'.1, ← hids]
  rfl

/-- The rows of a report can be listed, and the total is their number: no other number can be
returned for it. -/
theorem countStatement_answers_iff_length (collation : Collation) (db : Database)
    (hu : Unique (db "users") ["id"]) (q : Query) (order : SortOrder) :
    (∃ rows, (q.rowStatement order).Answers collation db rows) ∧
      ∀ rows, (q.rowStatement order).Answers collation db rows →
        ∀ counted, q.countStatement.Answers collation db counted ↔
          counted = [[("count", .integer rows.length)]] := by
  refine ⟨Select.exists_answers collation db _, fun rows hrows counted => ?_⟩
  rw [countStatement_answers_iff, length_of_answers hrows, card_grouped]
  rw [card_dedup_map_eq fun e he e' he' => groupKey_eq_iff hu he he']

/-- Tables in which a user is enrolled twice. -/
def enrolledTwice : Database
  | "users" => {User.toRecord ⟨1, "ada", "Ada", "Lovelace"⟩}
  | "enrolment" => {Enrolment.toRecord ⟨1, 7, 1⟩, Enrolment.toRecord ⟨2, 7, 1⟩}
  | _ => 0

/-- A user who is enrolled twice is listed once and counted once. -/
theorem total_enrolledTwice : Unique (enrolledTwice "users") ["id"] ∧
    ∃ rows, ((ofCourse 7).rowStatement {}).Answers .byCodePoints enrolledTwice rows ∧
      rows.length = 1 ∧
      (ofCourse 7).countStatement.Answers .byCodePoints enrolledTwice
        [[("count", .integer 1)]] := by
  obtain ⟨⟨rows, hrows⟩, hcount⟩ :=
    countStatement_answers_iff_length .byCodePoints enrolledTwice (by decide) (ofCourse 7) {}
  have hlength : rows.length = 1 := by
    rw [length_of_answers hrows, card_grouped]
    decide
  refine ⟨by decide, rows, hrows, hlength, ?_⟩
  rw [hcount rows hrows, hlength]
  rfl

end ForumSummary.Query
