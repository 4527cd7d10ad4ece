import ForumSummary.Proofs.Query.Contributions
import ForumSummary.Proofs.Report.Platform

/-!
# The posts that count

The inner select of a statement joins posts, discussions and forums (`records_coursePosts`), and the
left join keeps of them the posts that pass for a user (`truthAll_postTests_iff`). As discussions
and forums have ids of their own, each post is joined once at most: what is kept are the posts that
count for the user (`map_matched`).
-/

namespace ForumSummary.Platform

open Sql

variable (db : Platform) (q : Query)

/-! ## The posts of the course -/

/-- The posts that are in a discussion, with the discussion. -/
def discussedPosts : Multiset (Post × Discussion) :=
  (db.posts ×ˢ db.discussions).filter fun x => x.2.id = x.1.discussionId

/-- The posts in the forums of the course, each with its discussion and its forum. -/
def placedPosts : Multiset ((Post × Discussion) × Forum) :=
  (db.discussedPosts ×ˢ db.forums).filter fun y =>
    y.2.courseId = q.courseId ∧ y.2.id = y.1.2.forumId

/-- A post and its discussion in the joined tables. -/
def discussedRow (x : Post × Discussion) : Env :=
  (Env.empty.join "fp" x.1.toRecord).join "fd" x.2.toRecord

/-- A post, its discussion and its forum in the joined tables. -/
def placedRow (y : (Post × Discussion) × Forum) : Env :=
  (discussedRow y.1).join "f" y.2.toRecord

theorem sourceRows_coursePosts :
    q.coursePosts.sourceRows db.tables = (db.placedPosts q).map placedRow := by
  have hposts : Table.cross db.tables ⟨"forum_post", "fp"⟩ {Env.empty} =
      db.posts.map fun p => Env.empty.join "fp" p.toRecord :=
    Table.cross_singleton _ _ rfl
  have hdiscussions : InnerJoin.apply db.tables
      (db.posts.map fun p => Env.empty.join "fp" p.toRecord)
      ⟨⟨"forum_discussion", "fd"⟩, .sameColumn ⟨"fd", "id"⟩ ⟨"fp", "discussion_id"⟩⟩ =
        db.discussedPosts.map discussedRow :=
    InnerJoin.apply_map rfl fun p d => Datum.same_ofInt64_iff
  have hforums : InnerJoin.apply db.tables (db.discussedPosts.map discussedRow)
      ⟨⟨"forum", "f"⟩, .sameColumn ⟨"f", "id"⟩ ⟨"fd", "forum_id"⟩⟩ =
        ((db.discussedPosts ×ˢ db.forums).filter fun y => y.2.id = y.1.2.forumId).map placedRow :=
    InnerJoin.apply_map rfl fun x f => Datum.same_ofInt64_iff
  have hcourse : ∀ y, (RowTest.compare ⟨"f", "course_id"⟩ .equal (.bigInt q.courseId)).truth
      (placedRow y) = .yes ↔ y.2.courseId = q.courseId :=
    fun y => Datum.compare_equal_ofInt64_iff
  calc q.coursePosts.sourceRows db.tables
      = (((db.discussedPosts ×ˢ db.forums).filter fun y => y.2.id = y.1.2.forumId).map
          placedRow).filter fun e =>
            (RowTest.compare ⟨"f", "course_id"⟩ .equal (.bigInt q.courseId)).truth e = .yes := by
        rw [← hforums, ← hdiscussions, ← hposts]
        rfl
    _ = (db.placedPosts q).map placedRow := by
        rw [Multiset.filter_map, Multiset.filter_filter]
        congr 1
        refine Multiset.filter_congr fun y _ => ?_
        rw [Function.comp_apply, hcourse]

/-- A post of the course as a record of the inner select. -/
def postRecord (y : (Post × Discussion) × Forum) : Record
  | "id" => .ofInt64 y.1.1.id
  | "user_id" => .ofInt64 y.1.1.userId
  | "parent_id" => y.1.1.parentId.elim .null .ofInt64
  | "created" => .ofInt64 y.1.1.created
  | "forum_id" => .ofInt64 y.1.2.forumId
  | _ => .null

theorem records_coursePosts :
    q.coursePosts.records db.tables = (db.placedPosts q).map postRecord := by
  unfold Subselect.records
  rw [sourceRows_coursePosts, Multiset.map_map]
  refine Multiset.map_congr rfl fun y _ => funext fun name => ?_
  rw [Function.comp_apply]
  unfold postRecord
  split
  · rfl
  · rfl
  · rfl
  · rfl
  · rfl
  · next hid huser hparent hcreated hforum =>
    simp [Subselect.record, Query.coursePosts, Ne.symm hid, Ne.symm huser, Ne.symm hparent,
      Ne.symm hcreated, Ne.symm hforum]

variable {db q} {u : User} {e : Enrolment} {r : Record}

/-! ## The posts that count -/

/-- The tests of the left join on a post of the course: the author, the forum, and the moments. -/
def Passes (q : Query) (u : User) (y : (Post × Discussion) × Forum) : Prop :=
  y.1.1.userId = u.id ∧ (∀ id ∈ q.forum, y.1.2.forumId = id) ∧
    (∀ moment ∈ q.dateFrom, moment ≤ y.1.1.created) ∧ ∀ moment ∈ q.dateTo, y.1.1.created ≤ moment

instance (q : Query) (u : User) : DecidablePred (Passes q u) :=
  fun _ => inferInstanceAs (Decidable (_ ∧ _))

/-- An enrolment and its user in the joined tables. -/
def enrolledRow (u : User) (e : Enrolment) : Env :=
  (Env.empty.join "e" e.toRecord).join "u" u.toRecord

theorem truthAll_postTests_iff {y : (Post × Discussion) × Forum} :
    RowTest.truthAll ((enrolledRow u e).join "p" (postRecord y)) q.postTests = .yes ↔
      Passes q u y := by
  have hauthor : (RowTest.sameColumn (postColumn "user_id") (userColumn "id")).truth
      ((enrolledRow u e).join "p" (postRecord y)) = .yes ↔ y.1.1.userId = u.id :=
    Datum.same_ofInt64_iff
  have hforum : ∀ id, (RowTest.compare (postColumn "forum_id") .equal (.bigInt id)).truth
      ((enrolledRow u e).join "p" (postRecord y)) = .yes ↔ y.1.2.forumId = id :=
    fun id => Datum.compare_equal_ofInt64_iff
  have hcreated : ∀ op moment, (RowTest.compare (postColumn "created") op (.bigInt moment)).truth
      ((enrolledRow u e).join "p" (postRecord y)) = .yes ↔
        op.holds y.1.1.created.toInt moment.toInt = true :=
    fun op moment => Datum.compare_ofInt64_iff
  unfold RowTest.truthAll
  rw [Truth.all_eq_yes_iff, List.forall_mem_map, Query.forall_mem_postTests_iff, hauthor]
  simp only [hforum, hcreated, Comparison.holds, decide_eq_true_eq, ← Int64.le_iff_toInt_le]
  rfl

/-- The posts of the course that pass for a user. -/
def matched (db : Platform) (q : Query) (u : User) : Multiset ((Post × Discussion) × Forum) :=
  (db.placedPosts q).filter (Passes q u)

/-- These are the posts that count for the user, each once: its discussion has an id of its own, and
so has its forum. -/
theorem map_matched : (db.matched q u).map (fun y => y.1.1) = db.posts.filter (db.Counts q u) := by
  have hforum : (db.matched q u).map Prod.fst = db.discussedPosts.filter fun x =>
      ∃ f ∈ db.forums, Passes q u (x, f) ∧ f.courseId = q.courseId ∧ f.id = x.2.forumId := by
    unfold matched placedPosts
    rw [Multiset.filter_filter]
    exact map_fst_filter_product (r := fun x => x.2.forumId) db.nodup_forums fun y hy => hy.2.2
  have hdiscussion : (db.discussedPosts.filter fun x => ∃ f ∈ db.forums,
      Passes q u (x, f) ∧ f.courseId = q.courseId ∧ f.id = x.2.forumId).map Prod.fst =
        db.posts.filter fun p => ∃ d ∈ db.discussions, (∃ f ∈ db.forums, Passes q u ((p, d), f) ∧
          f.courseId = q.courseId ∧ f.id = d.forumId) ∧ d.id = p.discussionId := by
    unfold discussedPosts
    rw [Multiset.filter_filter]
    exact map_fst_filter_product (r := fun p => p.discussionId) db.nodup_discussions
      fun x hx => hx.2
  have hmap : (db.matched q u).map (fun y => y.1.1) =
      ((db.matched q u).map Prod.fst).map Prod.fst :=
    (Multiset.map_map _ _ _).symm
  rw [hmap, hforum, hdiscussion]
  refine Multiset.filter_congr fun p _ => ?_
  constructor
  · rintro ⟨d, hd, ⟨f, hf, ⟨hauthor, hfilter, hdates⟩, hcourse, hfd⟩, hdp⟩
    exact ⟨hauthor, ⟨d, hd, hdp, f, hf, hfd, hcourse, fun id hid => hfd.trans (hfilter id hid)⟩,
      hdates⟩
  · rintro ⟨hauthor, ⟨d, hd, hdp, f, hf, hfd, hcourse, hfilter⟩, hdates⟩
    exact ⟨d, hd, ⟨f, hf, ⟨hauthor, fun id hid => hfd.symm.trans (hfilter id hid), hdates⟩,
      hcourse, hfd⟩, hdp⟩

end ForumSummary.Platform
