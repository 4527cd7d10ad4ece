import ForumSummary.Proofs.Report.CountedPosts
import ForumSummary.Proofs.Sql.Order

/-!
# The rows of a report

The rows that a statement is about are those of each user in turn (`sourceRows_tables`), and a user
has some when the query lists the user (`card_rowsOf_ne_zero_iff`). The user is then enrolled in the
course once, so the rows are those of one left join: a row for each post that counts, or a single
row without a post (`rowsOf_eq_of_lists`). Sums over them count posts (`sum_joinedRows`). The users
are the groups, and the answer has the row of each listed user once (`coe_rows_eq_map_reportRow`).
-/

namespace ForumSummary.Platform

open Sql

variable {db : Platform} {q : Query} {u : User} {e : Enrolment} {r : Record}

/-! ## The rows of a user -/

/-- The rows that the left join makes of an enrolment of a user. -/
def joinedRows (db : Platform) (q : Query) (u : User) (e : Enrolment) : Multiset Env :=
  orAlone ((enrolledRow u e).join "p" fun _ => .null)
    ((db.matched q u).map fun y => (enrolledRow u e).join "p" (postRecord y))

/-- The rows of a user that the conditions of the report select. -/
def rowsOf (db : Platform) (q : Query) (u : User) : Multiset Env :=
  (db.enrolments.filter fun e => u.id = e.userId).bind fun e =>
    (db.joinedRows q u e).filter fun row =>
      Truth.all (q.conditions.map (Condition.truth db.tables row)) = .yes

theorem joinLeft_enrolledRow : q.coursePosts.joinLeft db.tables "p" q.postTests (enrolledRow u e) =
    db.joinedRows q u e :=
  Subselect.joinLeft_map (records_coursePosts db q) fun _ => truthAll_postTests_iff

theorem sourceRows_tables (db : Platform) (q : Query) :
    q.sourceRows db.tables = db.users.bind (db.rowsOf q) := by
  have henrolments : Table.cross db.tables ⟨"enrolment", "e"⟩ {Env.empty} =
      db.enrolments.map fun e => Env.empty.join "e" e.toRecord :=
    Table.cross_singleton _ _ rfl
  have husers : InnerJoin.apply db.tables
      (db.enrolments.map fun e => Env.empty.join "e" e.toRecord)
      ⟨⟨"users", "u"⟩, .sameColumn (userColumn "id") (enrolmentColumn "user_id")⟩ =
        ((db.enrolments ×ˢ db.users).filter fun x => x.2.id = x.1.userId).map fun x =>
          enrolledRow x.2 x.1 :=
    InnerJoin.apply_map rfl fun e u => Datum.same_ofInt64_iff
  calc q.sourceRows db.tables
      = ((((db.enrolments ×ˢ db.users).filter fun x => x.2.id = x.1.userId).map fun x =>
          enrolledRow x.2 x.1).bind (q.coursePosts.joinLeft db.tables "p" q.postTests)).filter
            fun row => Truth.all (q.conditions.map (Condition.truth db.tables row)) = .yes := by
        rw [← husers, ← henrolments]
        rfl
    _ = db.users.bind (db.rowsOf q) := by
        rw [Multiset.bind_map, Multiset.filter_bind, bind_filter_product]
        simp only [joinLeft_enrolledRow]
        rfl

/-! ## The conditions on a user -/

theorem truth_oneOf_iff {m : Membership} {ids : List Int64} :
    (RowTest.oneOf (membershipColumn "group_id") (ids.map .bigInt)).truth
      (Env.empty.join "gm" m.toRecord) = .yes ↔ m.groupId ∈ ids := by
  show Truth.any ((ids.map Literal.bigInt).map fun v =>
    (Datum.ofInt64 m.groupId).compare .equal v.toInt) = .yes ↔ _
  rw [Truth.any_eq_yes_iff, Multiset.mem_coe, List.map_map, List.mem_map]
  constructor
  · rintro ⟨id, hid, h⟩
    rw [Datum.compare_equal_ofInt64_iff.1 h]
    exact hid
  · intro h
    exact ⟨m.groupId, h, Datum.compare_equal_ofInt64_iff.2 rfl⟩

/-- The membership condition holds of the users that are in one of the groups. -/
theorem truth_membersOf_iff {ids : List Int64} :
    (Condition.member (userColumn "id") (Filter.membersOf ids)).truth db.tables
      ((enrolledRow u e).join "p" r) = .yes ↔
        ∃ m ∈ db.memberships, m.userId = u.id ∧ m.groupId ∈ ids := by
  have hmembers : Table.cross db.tables ⟨"group_member", "gm"⟩ {Env.empty} =
      db.memberships.map fun m => Env.empty.join "gm" m.toRecord :=
    Table.cross_singleton _ _ rfl
  have hvalues : (Filter.membersOf ids).values db.tables =
      ((db.memberships.map fun m => Env.empty.join "gm" m.toRecord).filter fun row =>
        (RowTest.oneOf (membershipColumn "group_id") (ids.map .bigInt)).truth row = .yes).map
          fun row => row (membershipColumn "user_id") := by
    rw [← hmembers]
    rfl
  show Truth.any (((Filter.membersOf ids).values db.tables).map
    (Datum.ofInt64 u.id).same) = .yes ↔ _
  rw [Truth.any_eq_yes_iff, hvalues, Multiset.filter_map, Multiset.map_map, Multiset.map_map,
    Multiset.mem_map]
  constructor
  · rintro ⟨m, hm, hsame⟩
    obtain ⟨hmem, hgroup⟩ := Multiset.mem_filter.1 hm
    exact ⟨m, hmem, (Datum.same_ofInt64_iff.1 hsame).symm, truth_oneOf_iff.1 hgroup⟩
  · rintro ⟨m, hmem, huser, hgroup⟩
    exact ⟨m, Multiset.mem_filter.2 ⟨hmem, truth_oneOf_iff.2 hgroup⟩,
      Datum.same_ofInt64_iff.2 huser.symm⟩

/-- The conditions of a statement on a joined row: the course, the groups, and a post where one is
asked for. -/
theorem truth_conditions_iff :
    Truth.all (q.conditions.map (Condition.truth db.tables ((enrolledRow u e).join "p" r))) = .yes ↔
      e.courseId = q.courseId ∧ db.InGroups q u ∧ (q.requiresPost = true → r "id" ≠ .null) := by
  have hcourse : (Condition.row
      (.compare (enrolmentColumn "course_id") .equal (.bigInt q.courseId))).truth db.tables
        ((enrolledRow u e).join "p" r) = .yes ↔ e.courseId = q.courseId :=
    Datum.compare_equal_ofInt64_iff
  have hpost : (Condition.row (.isNotNull (postColumn "id"))).truth db.tables
      ((enrolledRow u e).join "p" r) = .yes ↔ r "id" ≠ .null := by
    refine Truth.ofBool_eq_yes_iff.trans ?_
    exact decide_eq_true_iff
  have hgroups : (q.groupIds ≠ [] →
      ∃ m ∈ db.memberships, m.userId = u.id ∧ m.groupId ∈ q.groupIds) ↔ db.InGroups q u :=
    Query.forall_groupIds_iff
      (P := fun ids => ∃ m ∈ db.memberships, m.userId = u.id ∧ m.groupId ∈ ids)
  rw [Truth.all_eq_yes_iff, List.forall_mem_map, Query.forall_mem_conditions_iff, hcourse, hpost]
  simp only [truth_membersOf_iff]
  exact and_congr Iff.rfl (and_congr hgroups Iff.rfl)

/-! ## The group of a user -/

theorem exists_record_of_mem_joinedRows {row : Env} (h : row ∈ db.joinedRows q u e) :
    ∃ r, row = (enrolledRow u e).join "p" r := by
  rw [← joinLeft_enrolledRow] at h
  exact Subselect.exists_of_mem_joinLeft h

/-- The post in a joined row passes for the user, or there is none that does. -/
theorem exists_of_mem_joinedRows {row : Env} (h : row ∈ db.joinedRows q u e) :
    (∃ y ∈ db.matched q u, row = (enrolledRow u e).join "p" (postRecord y)) ∨
      db.matched q u = 0 ∧ row = (enrolledRow u e).join "p" fun _ => .null := by
  unfold joinedRows orAlone at h
  split at h
  · next hcard =>
    rw [Multiset.card_map, Multiset.card_eq_zero] at hcard
    exact .inr ⟨hcard, Multiset.mem_singleton.1 h⟩
  · obtain ⟨y, hy, rfl⟩ := Multiset.mem_map.1 h
    exact .inl ⟨y, hy, rfl⟩

/-- A matched post is there when a counted post is. -/
theorem exists_mem_matched_iff :
    (∃ y, y ∈ db.matched q u) ↔ ∃ p ∈ db.posts, db.Counts q u p := by
  have hposts : (∃ y, y ∈ db.matched q u) ↔ ∃ p, p ∈ db.posts.filter (db.Counts q u) := by
    rw [← map_matched]
    constructor
    · rintro ⟨y, hy⟩
      exact ⟨_, Multiset.mem_map_of_mem _ hy⟩
    · rintro ⟨p, hp⟩
      obtain ⟨y, hy, -⟩ := Multiset.mem_map.1 hp
      exact ⟨y, hy⟩
  rw [hposts]
  exact exists_congr fun p => Multiset.mem_filter

/-- A user with a row is listed. -/
theorem lists_of_mem_rowsOf {row : Env} (h : row ∈ db.rowsOf q u) : db.Lists q u := by
  obtain ⟨e, he, hrow⟩ := Multiset.mem_bind.1 h
  obtain ⟨hmem, huser⟩ := Multiset.mem_filter.1 he
  obtain ⟨hjoined, hconditions⟩ := Multiset.mem_filter.1 hrow
  rcases exists_of_mem_joinedRows hjoined with ⟨y, hy, rfl⟩ | ⟨-, rfl⟩
  · obtain ⟨hcourse, hgroups, -⟩ := truth_conditions_iff.1 hconditions
    exact ⟨⟨e, hmem, hcourse, huser.symm⟩, hgroups, fun _ => exists_mem_matched_iff.1 ⟨y, hy⟩⟩
  · obtain ⟨hcourse, hgroups, hpost⟩ := truth_conditions_iff.1 hconditions
    exact ⟨⟨e, hmem, hcourse, huser.symm⟩, hgroups, fun hdate =>
      absurd rfl (hpost (Query.requiresPost_iff.2 hdate))⟩

/-- A listed user has the rows of the one enrolment in the course, all of which meet the
conditions. -/
theorem rowsOf_eq_of_lists (h : db.Lists q u) : ∃ e, db.rowsOf q u = db.joinedRows q u e := by
  obtain ⟨⟨e, he, hcourse, huser⟩, hgroups, hposts⟩ := h
  -- Only the course tells the enrolments of the user apart: the groups are about the user, and a
  -- required post is there since the user is listed.
  have hselected : ∀ e', (db.joinedRows q u e').filter (fun row =>
      Truth.all (q.conditions.map (Condition.truth db.tables row)) = .yes) =
        if e'.courseId = q.courseId then db.joinedRows q u e' else 0 := by
    intro e'
    split
    · next hc =>
      refine Multiset.filter_eq_self.2 fun row hrow => ?_
      rcases exists_of_mem_joinedRows hrow with ⟨y, -, rfl⟩ | ⟨hnone, rfl⟩
      · exact truth_conditions_iff.2 ⟨hc, hgroups, fun _ => Datum.ofInt64_ne_null _⟩
      · refine truth_conditions_iff.2 ⟨hc, hgroups, fun hpost => ?_⟩
        obtain ⟨y, hy⟩ := exists_mem_matched_iff.2 (hposts (Query.requiresPost_iff.1 hpost))
        exact absurd (hnone ▸ hy) (Multiset.notMem_zero y)
    · next hc =>
      refine Multiset.filter_eq_nil.2 fun row hrow hcond => hc ?_
      obtain ⟨r, rfl⟩ := exists_record_of_mem_joinedRows hrow
      exact (truth_conditions_iff.1 hcond).1
  have hone : (db.enrolments.filter fun e' => e'.courseId = q.courseId ∧ u.id = e'.userId) = {e} :=
    filter_eq_singleton (k := (q.courseId, u.id)) db.nodup_enrolments
      (fun e' he' => Prod.ext he'.1 he'.2.symm) he ⟨hcourse, huser.symm⟩
  refine ⟨e, ?_⟩
  unfold rowsOf
  simp only [hselected]
  rw [← Multiset.bind_filter, Multiset.filter_filter, hone, Multiset.singleton_bind]

theorem card_rowsOf_ne_zero_iff : (db.rowsOf q u).card ≠ 0 ↔ db.Lists q u := by
  constructor
  · intro h
    obtain ⟨row, hrow⟩ := Multiset.card_pos_iff_exists_mem.1 (Nat.pos_of_ne_zero h)
    exact lists_of_mem_rowsOf hrow
  · intro h
    obtain ⟨e, he⟩ := rowsOf_eq_of_lists h
    rw [he]
    exact card_orAlone_ne_zero _ _

/-- What the rows of a user hold in the grouping columns. -/
def userKey (u : User) : List Datum :=
  [.ofInt64 u.id, .text u.username, .text u.firstname, .text u.lastname]

theorem map_groupColumns_of_mem_rowsOf {row : Env} (h : row ∈ db.rowsOf q u) :
    Query.groupColumns.map row = userKey u := by
  obtain ⟨e, -, hrow⟩ := Multiset.mem_bind.1 h
  obtain ⟨r, rfl⟩ := exists_record_of_mem_joinedRows (Multiset.mem_of_mem_filter hrow)
  rfl

theorem nodup_userKeys (db : Platform) : (db.users.map userKey).Nodup := by
  refine Multiset.Nodup.of_map List.head? ?_
  rw [Multiset.map_map]
  have hids := db.nodup_users.map (f := fun id => some (Datum.ofInt64 id)) fun m n h =>
    Datum.ofInt64_inj.1 (Option.some.inj h)
  rw [Multiset.map_map] at hids
  exact hids

/-! ## Counts -/

/-- A sum over the rows of a user that adds one for each post of some sort counts the counted posts
of that sort. The row of a user without posts adds nothing. -/
theorem sum_joinedRows {tests : List RowTest} {P : Post → Prop} [DecidablePred P]
    (hblank : RowTest.truthAll ((enrolledRow u e).join "p" fun _ => .null) tests ≠ .yes)
    (hpost : ∀ y, RowTest.truthAll ((enrolledRow u e).join "p" (postRecord y)) tests = .yes ↔
      P y.1.1) :
    ((db.joinedRows q u e).map fun row =>
      if RowTest.truthAll row tests = .yes then (1 : Int) else 0).sum =
        (db.posts.filter fun p => db.Counts q u p ∧ P p).card := by
  have hposts : (db.posts.filter fun p => db.Counts q u p ∧ P p) =
      ((db.matched q u).filter fun y => P y.1.1).map fun y => y.1.1 := by
    rw [← Multiset.filter_filter, Multiset.filter_comm, ← map_matched, Multiset.filter_map]
    rfl
  rw [hposts, Multiset.card_map, ← sum_map_one_eq_card]
  unfold joinedRows orAlone
  split
  · next hnone =>
    rw [Multiset.card_map, Multiset.card_eq_zero] at hnone
    rw [Multiset.map_singleton, Multiset.sum_singleton, if_neg hblank, hnone]
    rfl
  · rw [Multiset.map_map]
    simp only [Function.comp_apply, hpost]

theorem elim_ofInt64_eq_null_iff {o : Option Int64} :
    o.elim .null Datum.ofInt64 = .null ↔ o = none := by
  cases o with
  | none => exact iff_of_true rfl rfl
  | some n => exact iff_of_false (Datum.ofInt64_ne_null n) (Option.some_ne_none n)

theorem truthAll_startedTests_iff (y : (Post × Discussion) × Forum) :
    RowTest.truthAll ((enrolledRow u e).join "p" (postRecord y)) Query.startedTests = .yes ↔
      y.1.1.parentId = none := by
  have hid : (RowTest.isNotNull (postColumn "id")).truth
      ((enrolledRow u e).join "p" (postRecord y)) = .yes :=
    Truth.ofBool_eq_yes_iff.2 (decide_eq_true (Datum.ofInt64_ne_null y.1.1.id))
  have hparent : (RowTest.isNull (postColumn "parent_id")).truth
      ((enrolledRow u e).join "p" (postRecord y)) = .yes ↔ y.1.1.parentId = none :=
    Truth.ofBool_eq_yes_iff.trans (decide_eq_true_iff.trans elim_ofInt64_eq_null_iff)
  rw [RowTest.truthAll, Truth.all_eq_yes_iff, List.forall_mem_map, Query.startedTests,
    List.forall_mem_cons, List.forall_mem_singleton, hparent]
  exact and_iff_right hid

theorem truthAll_repliedTests_iff (y : (Post × Discussion) × Forum) :
    RowTest.truthAll ((enrolledRow u e).join "p" (postRecord y)) Query.repliedTests = .yes ↔
      y.1.1.parentId ≠ none := by
  have hparent : (RowTest.isNotNull (postColumn "parent_id")).truth
      ((enrolledRow u e).join "p" (postRecord y)) = .yes ↔ y.1.1.parentId ≠ none :=
    Truth.ofBool_eq_yes_iff.trans (decide_eq_true_iff.trans elim_ofInt64_eq_null_iff.not)
  rw [RowTest.truthAll, Truth.all_eq_yes_iff, List.forall_mem_map, Query.repliedTests,
    List.forall_mem_singleton, hparent]

/-- Tests that ask for a column of the post do not hold of a row without a post. -/
theorem truthAll_blank_ne_yes {tests : List RowTest} {name : String}
    (h : .isNotNull (postColumn name) ∈ tests) :
    RowTest.truthAll ((enrolledRow u e).join "p" fun _ => .null) tests ≠ .yes := by
  intro hall
  have hblank : (RowTest.isNotNull (postColumn name)).truth
      ((enrolledRow u e).join "p" fun _ => .null) = .no :=
    rfl
  rw [RowTest.truthAll, Truth.all_eq_yes_iff, List.forall_mem_map] at hall
  exact Truth.noConfusion (hblank.symm.trans (hall _ h))

/-- The group of a user. -/
def userGroup (db : Platform) (q : Query) (u : User) : Group :=
  ⟨keyColumns Query.groupColumns (userKey u), db.rowsOf q u⟩

theorem value_sumWhere (h : db.Lists q u) {tests : List RowTest} {P : Post → Prop}
    [DecidablePred P]
    (hblank : ∀ e, RowTest.truthAll ((enrolledRow u e).join "p" fun _ => .null) tests ≠ .yes)
    (hpost : ∀ e y, RowTest.truthAll ((enrolledRow u e).join "p" (postRecord y)) tests = .yes ↔
      P y.1.1) :
    (Expression.sumWhere tests (.int 1) (.int 0)).value (db.userGroup q u) =
      .integer (db.posts.filter fun p => db.Counts q u p ∧ P p).card := by
  obtain ⟨e, he⟩ := rowsOf_eq_of_lists h
  rw [← sum_joinedRows (hblank e) (hpost e), ← he]
  exact if_neg (card_rowsOf_ne_zero_iff.2 h)

/-- The row that the select list makes of the group of a listed user. -/
theorem resultRow_userGroup (h : db.Lists q u) :
    resultRow q.rowOutputs (db.userGroup q u) = db.reportRow q u := by
  have hstarted := value_sumWhere h (P := fun p => p.parentId = none)
    (fun _ => truthAll_blank_ne_yes List.mem_cons_self) fun _ => truthAll_startedTests_iff
  have hreplied := value_sumWhere h (P := fun p => p.parentId ≠ none)
    (fun _ => truthAll_blank_ne_yes List.mem_cons_self) fun _ => truthAll_repliedTests_iff
  have hforum : (q.forum.elim Expression.nullBigInt (.literal <| .bigInt ·)).value
      (db.userGroup q u) = q.forum.elim .null .ofInt64 := by
    cases q.forum <;> rfl
  unfold Query.rowOutputs
  rw [Query.forumOutputs_eq]
  unfold reportRow
  rw [← hstarted, ← hreplied, ← hforum]
  rfl

/-- A report has rows, and whatever the order they are the rows of the listed users, one each. -/
theorem coe_rows_eq_map_reportRow (collation : Collation) (db : Platform) (q : Query)
    (order : SortOrder) :
    (∃ rows, (q.rowStatement order).Answers collation db.tables rows) ∧
      ∀ rows, (q.rowStatement order).Answers collation db.tables rows →
        (rows : Multiset ResultRow) = (db.users.filter (db.Lists q)).map (db.reportRow q) := by
  refine ⟨Select.exists_answers collation db.tables _, ?_⟩
  rintro rows ⟨gs, ⟨hgs, -⟩, rfl⟩
  have hgroups : (q.rowStatement order).groups db.tables =
      (db.users.filter (db.Lists q)).map (db.userGroup q) := by
    rw [Query.groups_rowStatement, sourceRows_tables,
      grouped_bind (nodup_userKeys db) fun u _ row => map_groupColumns_of_mem_rowsOf]
    congr 1
    exact Multiset.filter_congr fun u _ => card_rowsOf_ne_zero_iff
  calc (((gs.map (resultRow q.rowOutputs)) : List ResultRow) : Multiset ResultRow)
      = ((db.users.filter (db.Lists q)).map (db.userGroup q)).map (resultRow q.rowOutputs) := by
        rw [← hgroups, ← hgs, Multiset.map_coe]
    _ = (db.users.filter (db.Lists q)).map (db.reportRow q) := by
        rw [Multiset.map_map]
        exact Multiset.map_congr rfl fun u hu => resultRow_userGroup (Multiset.of_mem_filter hu)

/-- On the sample, the report on course 7 has the two enrolled users, one without posts. -/
theorem coe_rows_sample : ∃ rows : List ResultRow,
    ((Query.ofCourse 7).rowStatement {}).Answers .byCodePoints sample.tables rows ∧
      (rows : Multiset ResultRow) =
        {[("user_id", .integer 1), ("username", .text "ada"), ("firstname", .text "Ada"),
          ("lastname", .text "Lovelace"), ("forum_id", .null), ("post_count", .integer 1),
          ("reply_count", .integer 1)],
        [("user_id", .integer 2), ("username", .text "learner"), ("firstname", .text "Learner"),
          ("lastname", .text "Two"), ("forum_id", .null), ("post_count", .integer 0),
          ("reply_count", .integer 0)]} := by
  obtain ⟨⟨rows, hrows⟩, hmeaning⟩ :=
    coe_rows_eq_map_reportRow .byCodePoints sample (Query.ofCourse 7) {}
  refine ⟨rows, hrows, (hmeaning rows hrows).trans ?_⟩
  decide

end ForumSummary.Platform
