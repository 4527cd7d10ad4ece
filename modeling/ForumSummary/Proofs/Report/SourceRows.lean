import ForumSummary.Query.Statement
import ForumSummary.Proofs.Sql.Grouping
import ForumSummary.Proofs.Sql.Joins

/-!
# The rows that a report is made of

All statements of a query are about one collection of rows (`Query.sourceRows`). In each row the
columns of the user come from one record of the users, whose id is known
(`Query.exists_user_of_mem`). Where the ids of the users are unique, rows with one id therefore
agree on all columns of the user (`Query.groupKey_eq_iff`): to group by id, user name and names is
to group by id. A report has as many rows as there are groups (`Query.length_of_answers`).
-/

namespace ForumSummary

open Sql

namespace Sql

/-- No two records have the same values, none of them null, in some columns. -/
def Unique (records : Multiset Record) (columns : List String) : Prop :=
  ((records.map fun r => columns.map r).filter fun key => Datum.null ∉ key).Nodup

instance (records : Multiset Record) (columns : List String) : Decidable (Unique records columns) :=
  inferInstanceAs (Decidable (Multiset.Nodup _))

/-- A column of numbers, and of nulls. -/
def Numeric (records : Multiset Record) (column : String) : Prop :=
  ∀ r ∈ records, ∀ t, r column ≠ .text t

theorem Unique.eq {records : Multiset Record} {column : String} (h : Unique records [column])
    {r r' : Record} (hr : r ∈ records) (hr' : r' ∈ records) (hne : r column ≠ .null)
    (heq : r column = r' column) : r = r' := by
  unfold Unique at h
  rw [Multiset.filter_map] at h
  have hkey : ∀ x ∈ records, x column ≠ .null →
      x ∈ records.filter ((fun key => Datum.null ∉ key) ∘ fun x => [column].map x) := by
    intro x hx hxne
    refine Multiset.mem_filter.2 ⟨hx, fun hmem => hxne ?_⟩
    exact (List.mem_singleton.1 hmem).symm
  refine Multiset.inj_on_of_nodup_map h r (hkey r hr hne) r' (hkey r' hr' (heq ▸ hne)) ?_
  rw [List.map_singleton, List.map_singleton, heq]

end Sql

namespace Query

/-- The rows that the statements of a query are about. -/
def sourceRows (db : Database) (q : Query) : Multiset Env :=
  (q.base []).sourceRows db

/-- The columns by which the row statements are grouped. -/
def groupColumns : List Column :=
  [userColumn "id", userColumn "username", userColumn "firstname", userColumn "lastname"]

theorem userId_mem_groupColumns : userColumn "id" ∈ groupColumns :=
  List.mem_cons_self

theorem groups_rowStatement (db : Database) (q : Query) (order : SortOrder) :
    (q.rowStatement order).groups db = grouped groupColumns (q.sourceRows db) :=
  if_pos (List.cons_ne_nil _ _)

variable {collation : Collation} {db : Database} {q : Query} {order : SortOrder}

/-- A report has as many rows as there are groups. -/
theorem length_of_answers {rows : List ResultRow}
    (h : (q.rowStatement order).Answers collation db rows) :
    rows.length = (grouped groupColumns (q.sourceRows db)).card := by
  obtain ⟨gs, ⟨hgs, -⟩, rfl⟩ := h
  rw [← groups_rowStatement, ← hgs, Multiset.coe_card]
  exact List.length_map _

/-- The columns of the user in a row are a record of the users, and its id is known. -/
theorem exists_user_of_mem {e : Env} (h : e ∈ q.sourceRows db) :
    ∃ u ∈ db "users", u "id" ≠ .null ∧ ∀ name, e (userColumn name) = u name := by
  have hjoined := Multiset.mem_of_mem_filter h
  obtain ⟨e₀, he₀, hleft⟩ := Multiset.mem_bind.1 hjoined
  obtain ⟨p, rfl⟩ := Subselect.exists_of_mem_joinLeft hleft
  obtain ⟨⟨e₁, -, u, hu, rfl⟩, hon⟩ := InnerJoin.mem_apply_iff.1 he₀
  have hcolumn : ∀ name, (e₁.join "u" u) (userColumn name) = u name :=
    fun name => Env.join_self e₁ "u" u name
  refine ⟨u, hu, ?_, fun name => ?_⟩
  · rw [← hcolumn]
    exact (Datum.same_eq_yes_iff.1 hon).2
  · rw [← hcolumn]
    exact Env.join_of_ne _ p (show "u" ≠ "p" by decide)

/-- Rows are in one group when they have one user id. -/
theorem groupKey_eq_iff (hu : Unique (db "users") ["id"]) {e e' : Env} (he : e ∈ q.sourceRows db)
    (he' : e' ∈ q.sourceRows db) :
    groupColumns.map e = groupColumns.map e' ↔ e (userColumn "id") = e' (userColumn "id") := by
  constructor
  · intro h
    exact (List.cons.inj h).1
  · intro h
    obtain ⟨u, hmem, hne, hcols⟩ := exists_user_of_mem he
    obtain ⟨u', hmem', -, hcols'⟩ := exists_user_of_mem he'
    rw [hcols, hcols'] at h
    obtain rfl := hu.eq hmem hmem' hne h
    refine List.map_congr_left fun c hc => ?_
    simp only [groupColumns, List.mem_cons, List.not_mem_nil, or_false] at hc
    rcases hc with rfl | rfl | rfl | rfl <;> rw [hcols, hcols']

/-- The groups of a report have different user ids. -/
theorem nodup_userIds (hu : Unique (db "users") ["id"]) :
    ((grouped groupColumns (q.sourceRows db)).map fun g => g.columns (userColumn "id")).Nodup := by
  unfold grouped
  rw [Multiset.map_map]
  refine Multiset.Nodup.map_on (fun key hkey key' hkey' h => ?_) (Multiset.nodup_dedup _)
  obtain ⟨e, he, rfl⟩ := Multiset.mem_map.1 (Multiset.mem_dedup.1 hkey)
  obtain ⟨e', he', rfl⟩ := Multiset.mem_map.1 (Multiset.mem_dedup.1 hkey')
  simp only [Function.comp_apply, keyColumns_map userId_mem_groupColumns] at h
  exact (groupKey_eq_iff hu he he').2 h

end Query

end ForumSummary
