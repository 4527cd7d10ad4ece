import ForumSummary.Proofs.Report.Platform
import ForumSummary.Proofs.Sql.Order

/-!
# Pages of a report

Every order of a report ends with the id of the user, and a group has an id of its own, so no two
groups are tied (`untied_rowStatement`) and the report has one answer. A page statement differs from
the row statement in its window only (`arranges_pageStatement_iff`). The windows of the pages
1, 2, … lie side by side, so the pages, each asked for on its own, make up the report
(`flatMap_pages_eq`).
-/

namespace ForumSummary.Query

open Sql

variable {collation : Collation} {db : Database} {q : Query} {order : SortOrder}

/-! ## No ties -/

/-- No two groups of a report are tied: the last term of the order tells their users apart. -/
theorem untied_rowStatement (collation : Collation) (hn : Numeric (db "users") "id")
    (hu : Unique (db "users") ["id"]) (q : Query) (order : SortOrder) :
    (q.rowStatement order).Untied collation db := by
  intro g hg h hh hgh hhg
  rw [groups_rowStatement] at hg hh
  obtain ⟨e, he, rfl⟩ := mem_grouped_iff.1 hg
  obtain ⟨e', he', rfl⟩ := mem_grouped_iff.1 hh
  have hlast : ⟨.column (userColumn "id"), false⟩ ∈ (q.rowStatement order).orderBy :=
    List.mem_append_right _ (List.mem_singleton_self _)
  have htied := tied_of_precedes hgh hhg _ hlast
  simp only [SortTerm.le, SortKey.value, Bool.false_eq_true, if_false,
    keyColumns_map userId_mem_groupColumns] at htied
  obtain ⟨u, hmem, -, hcols⟩ := exists_user_of_mem he
  have hnum : ∀ t, e (userColumn "id") ≠ .text t := by
    intro t
    rw [hcols]
    exact hn u hmem t
  have hkey := (groupKey_eq_iff hu he he').2 (Datum.eq_of_tied hnum htied.1 htied.2)
  rw [hkey]

/-- A page shows a part of the same arrangement of groups. -/
theorem arranges_pageStatement_iff {page size : UInt32} {gs : List Group} :
    (q.pageStatement ((PageRequest.forPage page size).sortedBy order)).Arranges collation db gs ↔
      (q.rowStatement order).Arranges collation db gs :=
  Iff.rfl

/-! ## Windows -/

/-- The windows of equal size from the first on, one after the other, show the start of a list. -/
theorem flatMap_windows_eq_take {α : Type} (l : List α) (size count : Nat) :
    (List.range' 1 count).flatMap (fun k => (l.drop ((k - 1) * size)).take size) =
      l.take (count * size) := by
  induction count with
  | zero => simp
  | succ count ih =>
    rw [List.range'_1_concat, List.flatMap_append, ih, List.flatMap_singleton, Nat.succ_mul,
      List.take_add, Nat.add_sub_cancel_left]

/-- The window of a page number. -/
theorem cut_pageStatement_forPage {α : Type} {k size : UInt32} (l : List α) :
    (q.pageStatement ((PageRequest.forPage k size).sortedBy order)).cut l =
      (l.drop ((k.toNat - 1) * size.toNat)).take size.toNat := by
  show (l.drop (PageRequest.forPage k size).start.toNat).take size.toUInt64.toNat = _
  rw [PageRequest.toNat_start_forPage, UInt32.toNat_toUInt64]

/-- The number of pages that rows fill. -/
def pagesFilled (rows : Nat) (size : UInt32) : Nat :=
  (rows + size.toNat - 1) / size.toNat

theorem le_pagesFilled_mul {rows : Nat} {size : UInt32} (hs : 1 ≤ size) :
    rows ≤ pagesFilled rows size * size.toNat := by
  have hpos : 0 < size.toNat := UInt32.le_iff_toNat_le.1 hs
  have hdiv := Nat.div_add_mod (rows + size.toNat - 1) size.toNat
  have hmod := Nat.mod_lt (rows + size.toNat - 1) hpos
  unfold pagesFilled
  rw [Nat.mul_comm]
  omega

/-! ## Paging -/

/-- No user has two rows of a report. -/
theorem nodup_userIds_of_arranges (hu : Unique (db "users") ["id"]) {gs : List Group}
    (hgs : (q.rowStatement order).Arranges collation db gs) :
    ((gs.map (resultRow q.rowOutputs)).map fun row => row.lookup "user_id").Nodup := by
  have hids : ((gs : Multiset Group).map fun g => g.columns (userColumn "id")).Nodup := by
    rw [hgs.1, groups_rowStatement]
    exact nodup_userIds hu
  have hlookup : (fun row => row.lookup "user_id") ∘ resultRow q.rowOutputs =
      some ∘ fun g => g.columns (userColumn "id") :=
    rfl
  rw [List.map_map, hlookup, ← List.map_map]
  rw [Multiset.map_coe, Multiset.coe_nodup] at hids
  exact hids.map (Option.some_injective _)

/-- A report has one list of rows, in which no user is twice. The pages that it fills, each asked
for on its own, have one list of rows each, and these lists one after the other are the report. -/
theorem flatMap_pages_eq (collation : Collation) (db : Database)
    (hn : Numeric (db "users") "id") (hu : Unique (db "users") ["id"]) (q : Query)
    (order : SortOrder) (size : UInt32) (hs : 1 ≤ size) :
    ∃ rows : List ResultRow,
      (∀ answer, (q.rowStatement order).Answers collation db answer ↔ answer = rows) ∧
      (rows.map fun row => row.lookup "user_id").Nodup ∧
      (pagesFilled rows.length size ≤ UInt32.size - 1 →
        ∃ pages : Nat → List ResultRow,
          (∀ k, 1 ≤ k → k ≤ pagesFilled rows.length size → ∀ answer,
            (q.pageStatement ((PageRequest.forPage (UInt32.ofNat k) size).sortedBy order)).Answers
              collation db answer ↔ answer = pages k) ∧
          (List.range' 1 (pagesFilled rows.length size)).flatMap pages = rows) := by
  -- One arrangement of the groups serves the report and all its pages.
  obtain ⟨gs, hgs, huniq⟩ := Select.existsUnique_arranges
    (untied_rowStatement collation hn hu q order)
  refine ⟨gs.map (resultRow q.rowOutputs),
    fun answer => Select.answers_iff_of_unique hgs huniq, nodup_userIds_of_arranges hu hgs,
    fun hfits => ⟨fun k =>
      ((gs.map (resultRow q.rowOutputs)).drop ((k - 1) * size.toNat)).take size.toNat,
      fun k _ hk answer => ?_, ?_⟩⟩
  · have hkn : (UInt32.ofNat k).toNat = k := UInt32.toNat_ofNat_of_lt (by omega)
    refine (Select.answers_iff_of_unique (arranges_pageStatement_iff.2 hgs)
      fun gs' hgs' => huniq gs' (arranges_pageStatement_iff.1 hgs')).trans ?_
    rw [cut_pageStatement_forPage, hkn]
    rfl
  · rw [flatMap_windows_eq_take]
    exact List.take_of_length_le (le_pagesFilled_mul hs)

/-- The two users of the sample, one on a page. -/
theorem pages_sample : ∃ rows first second : List ResultRow,
    rows.length = 2 ∧
    (∀ answer, ((ofCourse 7).rowStatement {}).Answers .byCodePoints Platform.sample.tables answer ↔
      answer = rows) ∧
    (∀ answer, ((ofCourse 7).pageStatement ((PageRequest.forPage 1 1).sortedBy {})).Answers
      .byCodePoints Platform.sample.tables answer ↔ answer = first) ∧
    (∀ answer, ((ofCourse 7).pageStatement ((PageRequest.forPage 2 1).sortedBy {})).Answers
      .byCodePoints Platform.sample.tables answer ↔ answer = second) ∧
    first ++ second = rows := by
  obtain ⟨rows, hrows, -, hpages⟩ :=
    flatMap_pages_eq .byCodePoints Platform.sample.tables Platform.sample.numeric_users
      Platform.sample.unique_users (ofCourse 7) {} 1 (by decide)
  have hlength : rows.length = 2 := by
    rw [length_of_answers ((hrows rows).2 rfl), card_grouped]
    decide
  rw [hlength] at hpages
  obtain ⟨pages, hanswers, hall⟩ := hpages (by decide)
  refine ⟨rows, pages 1, pages 2, hlength, hrows, hanswers 1 (by decide) (by decide),
    hanswers 2 (by decide) (by decide), ?_⟩
  rw [← hall]
  exact congrArg (pages 1 ++ ·) (List.append_nil (pages 2)).symm

end ForumSummary.Query
