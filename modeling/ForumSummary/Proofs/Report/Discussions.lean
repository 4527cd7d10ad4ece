import ForumSummary.Proofs.Report.Plans

/-!
# The chain of look-ups for a discussion

A discussion is downloaded in three look-ups: of a forum, of the discussion of this forum that
changed last, and of the posts of this discussion. Each is made with the id that the one before has
found, and the first that finds nothing or cannot be read ends the run. `DiscussionRun` lists all
runs that there are, with what the store answers in each (`exportDiscussion_run`); what is sent,
each error and the table are read off this list.
-/

namespace ForumSummary

/-! ## Answers to look-ups -/

namespace Store

/-- The answer to a look-up of one record can be read: it has no row, or the first row is a record.
-/
def ReadsFirst {α : Type} (store : Store) (cells : α → List Cell) (s : Statement) : Prop :=
  store.reply s = .rows [] ∨ ∃ a, store.Finds cells s a

/-- The store answers with the posts of a discussion, in this order and nothing else. -/
def ListsPosts (store : Store) (discussionId : Int64) (posts : List Post) : Prop :=
  ∃ answer, store.reply (.posts discussionId) = .rows answer ∧
    List.Forall₂ (fun p cells => p.cells <+: cells) posts answer

/-- The answer to a look-up for a discussion can be read. -/
def IsReadable (store : Store) : Statement → Prop
  | .forum id => store.ReadsFirst Forum.cells (.forum id)
  | .latestDiscussion forumId => store.ReadsFirst Discussion.cells (.latestDiscussion forumId)
  | .posts discussionId => ∃ posts, store.ListsPosts discussionId posts
  | s => ∃ answer, store.reply s = .rows answer

variable {α : Type} {store : Store} {ofCells? : List Cell → Option α} {cells : α → List Cell}
  {s : Statement} {a a' : α}

theorem Finds.unique (h : store.Finds cells s a) (hreads : Cell.Reads ofCells? cells)
    (h' : store.Finds cells s a') : a = a' := by
  obtain ⟨row, others, hreply, ha⟩ := h
  obtain ⟨row', others', hreply', ha'⟩ := h'
  cases hreply.symm.trans hreply'
  exact Option.some.inj (((hreads row a).2 ha).symm.trans ((hreads row a').2 ha'))

theorem Finds.not_findsNothing (h : store.Finds cells s a) : ¬ store.FindsNothing s := by
  intro hnothing
  obtain ⟨row, others, hreply, -⟩ := h
  cases hreply.symm.trans hnothing.2

theorem listsPosts_iff {discussionId : Int64} {posts : List Post} :
    store.ListsPosts discussionId posts ↔
      ∃ answer, store.reply (.posts discussionId) = .rows answer ∧
        Session.readAll Post.ofCells? answer = some posts := by
  simp only [ListsPosts, Session.readAll_eq_some_iff Post.reads_cells]

theorem ListsPosts.unique {discussionId : Int64} {posts posts' : List Post}
    (h : store.ListsPosts discussionId posts) (h' : store.ListsPosts discussionId posts') :
    posts = posts' :=
  read_unique (listsPosts_iff.1 h) (listsPosts_iff.1 h')

end Store

/-! ## Single look-ups -/

namespace Session

variable {α : Type}

/-- The look-up of one record that must be there. -/
def find (step : Fault.Step) (s : Statement) (ofCells? : List Cell → Option α) (e : ReportError) :
    Session α :=
  ask step s (readFirst ofCells?) >>= orFail e

/-- A look-up is not sent, is not answered with what can be read, finds nothing, or finds a record.
-/
theorem find_cases {ofCells? : List Cell → Option α} {cells : α → List Cell}
    (hreads : Cell.Reads ofCells? cells) (step : Fault.Step) (s : Statement) (e : ReportError)
    (store : Store) :
    (store.refusal ≠ none ∧
      ∃ fault, find step s ofCells? e store = ⟨.error (.internal fault), []⟩) ∨
    (store.refusal = none ∧ ¬ store.ReadsFirst cells s ∧
      ∃ fault, find step s ofCells? e store = ⟨.error (.internal fault), [s]⟩) ∨
    (store.FindsNothing s ∧ find step s ofCells? e store = ⟨.error e, [s]⟩) ∨
    (store.refusal = none ∧
      ∃ a, store.Finds cells s a ∧ find step s ofCells? e store = ⟨.ok a, [s]⟩) := by
  have hfirst {row : List Cell} {a : α} (others : List (List Cell)) (ha : cells a <+: row) :
      readFirst ofCells? (row :: others) = some (some a) := by
    rw [readFirst, (hreads row a).2 ha]
    rfl
  obtain ⟨hrefused, fault, hrun⟩ | ⟨hopen, hread, fault, hrun⟩ |
    ⟨hopen, answer, found, hreply, hread, hrun⟩ := ask_cases step s (readFirst ofCells?) store
  · exact .inl ⟨hrefused, fault, bind_of_error hrun⟩
  · refine .inr (.inl ⟨hopen, ?_, fault, bind_of_error hrun⟩)
    rintro (hreply | ⟨a, row, others, hreply, ha⟩)
    · cases hread _ hreply
    · cases (hfirst others ha).symm.trans (hread _ hreply)
  · cases answer with
    | nil =>
      cases hread
      exact .inr (.inr (.inl ⟨⟨hopen, hreply⟩, bind_of_ok hrun⟩))
    | cons row others =>
      obtain ⟨a, ha, rfl⟩ := Option.map_eq_some_iff.1 hread
      have hfinds : store.Finds cells s a := ⟨row, others, hreply, (hreads row a).1 ha⟩
      exact .inr (.inr (.inr ⟨hopen, a, hfinds, bind_of_ok hrun⟩))

end Session

namespace Report

variable {store : Store} {id : Int64}

/-! ## Runs -/

/-- What is sent for the discussion of a forum: look-up after look-up, as far as records are found.
-/
inductive DiscussionTrail (store : Store) (id : Int64) : List Statement → Prop
  | refused (h : store.refusal ≠ none) : DiscussionTrail store id []
  | forum (hopen : store.refusal = none) (h : ∀ f, ¬ store.Finds Forum.cells (.forum id) f) :
    DiscussionTrail store id [.forum id]
  | discussion {f} (hopen : store.refusal = none) (hf : store.Finds Forum.cells (.forum id) f)
    (h : ∀ d, ¬ store.Finds Discussion.cells (.latestDiscussion f.id) d) :
    DiscussionTrail store id [.forum id, .latestDiscussion f.id]
  | posts {f d} (hopen : store.refusal = none) (hf : store.Finds Forum.cells (.forum id) f)
    (hd : store.Finds Discussion.cells (.latestDiscussion f.id) d) :
    DiscussionTrail store id [.forum id, .latestDiscussion f.id, .posts d.id]

/-- Each look-up is sent with one argument, the id that it is made with. -/
theorem DiscussionTrail.arguments_eq {sent : List Statement} (h : DiscussionTrail store id sent) :
    ∀ s ∈ sent, ∃ i, s ∈ [Statement.forum i, .latestDiscussion i, .posts i] ∧
      s.arguments = [.int8 (some i)] := by
  intro s hs
  cases h with
  | refused => cases hs
  | forum | discussion | posts =>
    simp only [List.mem_cons, List.not_mem_nil, or_false] at hs
    obtain rfl | rfl | rfl := hs
    all_goals exact ⟨_, by simp, rfl⟩

/-- The runs of the download of a discussion. -/
inductive DiscussionRun (store : Store) (id : Int64) : Run Export.Dataset → Prop
  | refused {fault} (h : store.refusal ≠ none) :
    DiscussionRun store id ⟨.error (.internal fault), []⟩
  | forumUnread {fault} (hopen : store.refusal = none) (h : ¬ store.IsReadable (.forum id)) :
    DiscussionRun store id ⟨.error (.internal fault), [.forum id]⟩
  | forumMissing (h : store.FindsNothing (.forum id)) :
    DiscussionRun store id ⟨.error (.forumNotFound id), [.forum id]⟩
  | discussionUnread {f fault} (hopen : store.refusal = none)
    (hf : store.Finds Forum.cells (.forum id) f)
    (h : ¬ store.IsReadable (.latestDiscussion f.id)) :
    DiscussionRun store id ⟨.error (.internal fault), [.forum id, .latestDiscussion f.id]⟩
  | discussionMissing {f} (hf : store.Finds Forum.cells (.forum id) f)
    (h : store.FindsNothing (.latestDiscussion f.id)) :
    DiscussionRun store id
      ⟨.error (.discussionNotFound f.id), [.forum id, .latestDiscussion f.id]⟩
  | postsUnread {f d fault} (hopen : store.refusal = none)
    (hf : store.Finds Forum.cells (.forum id) f)
    (hd : store.Finds Discussion.cells (.latestDiscussion f.id) d)
    (h : ¬ store.IsReadable (.posts d.id)) :
    DiscussionRun store id
      ⟨.error (.internal fault), [.forum id, .latestDiscussion f.id, .posts d.id]⟩
  | exported {f d posts} (hopen : store.refusal = none)
    (hf : store.Finds Forum.cells (.forum id) f)
    (hd : store.Finds Discussion.cells (.latestDiscussion f.id) d)
    (h : store.ListsPosts d.id posts) :
    DiscussionRun store id
      ⟨.ok (.ofPosts posts), [.forum id, .latestDiscussion f.id, .posts d.id]⟩

theorem exportDiscussion_eq (id : Int64) : exportDiscussion id = (do
    let f ← Session.find .fetchForum (.forum id) Forum.ofCells? (.forumNotFound id)
    let d ← Session.find .fetchDiscussion (.latestDiscussion f.id) Discussion.ofCells?
      (.discussionNotFound f.id)
    let posts ← Session.posts d.id
    return Export.Dataset.ofPosts posts) := by
  simp only [exportDiscussion, Session.find, bind_assoc]
  rfl

/-- The posts of a discussion are read whole or not at all. -/
theorem posts_cases (hopen : store.refusal = none) (discussionId : Int64) :
    (¬ store.IsReadable (.posts discussionId) ∧ ∃ fault,
      Session.posts discussionId store = ⟨.error (.internal fault), [.posts discussionId]⟩) ∨
    ∃ posts, store.ListsPosts discussionId posts ∧
      Session.posts discussionId store = ⟨.ok posts, [.posts discussionId]⟩ := by
  obtain ⟨hrefused, -⟩ | ⟨-, hread, fault, hrun⟩ | ⟨-, answer, posts, hreply, hread, hrun⟩ :=
    Session.ask_cases .listPosts (.posts discussionId) (Session.readAll Post.ofCells?) store
  · exact absurd hopen hrefused
  · refine .inl ⟨?_, fault, hrun⟩
    rintro ⟨posts, hposts⟩
    obtain ⟨answer, hreply, hposts⟩ := Store.listsPosts_iff.1 hposts
    cases (hread answer hreply).symm.trans hposts
  · exact .inr ⟨posts, Store.listsPosts_iff.2 ⟨answer, hreply, hread⟩, hrun⟩

theorem exportDiscussion_run (id : Int64) (store : Store) :
    DiscussionRun store id (exportDiscussion id store) := by
  rw [exportDiscussion_eq]
  obtain ⟨hrefused, fault, hrun⟩ | ⟨hopen, hread, fault, hrun⟩ | ⟨hnothing, hrun⟩ |
    ⟨hopen, f, hf, hrun⟩ :=
    Session.find_cases Forum.reads_cells .fetchForum (.forum id) (.forumNotFound id) store
  · rw [Session.bind_of_error hrun]
    exact .refused hrefused
  · rw [Session.bind_of_error hrun]
    exact .forumUnread hopen hread
  · rw [Session.bind_of_error hrun]
    exact .forumMissing hnothing
  rw [Session.bind_of_ok hrun]
  obtain ⟨hrefused, -⟩ | ⟨-, hread, fault, hrun⟩ | ⟨hnothing, hrun⟩ | ⟨-, d, hd, hrun⟩ :=
    Session.find_cases Discussion.reads_cells .fetchDiscussion (.latestDiscussion f.id)
      (.discussionNotFound f.id) store
  · exact absurd hopen hrefused
  · rw [Session.bind_of_error hrun]
    exact .discussionUnread hopen hf hread
  · rw [Session.bind_of_error hrun]
    exact .discussionMissing hf hnothing
  rw [Session.bind_of_ok hrun]
  obtain ⟨hread, fault, hrun⟩ | ⟨posts, hposts, hrun⟩ := posts_cases hopen d.id
  · rw [Session.bind_of_error hrun]
    exact .postsUnread hopen hf hd hread
  · rw [Session.bind_of_ok hrun]
    exact .exported hopen hf hd hposts

/-! ## What runs end with -/

namespace DiscussionRun

variable {run : Run Export.Dataset} (h : DiscussionRun store id run)
include h

theorem trail : DiscussionTrail store id run.sent := by
  cases h with
  | refused h => exact .refused h
  | forumUnread hopen h => exact .forum hopen fun f hf => h (.inr ⟨f, hf⟩)
  | forumMissing h => exact .forum h.1 fun f hf => hf.not_findsNothing h
  | discussionUnread hopen hf h => exact .discussion hopen hf fun d hd => h (.inr ⟨d, hd⟩)
  | discussionMissing hf h => exact .discussion h.1 hf fun d hd => hd.not_findsNothing h
  | postsUnread hopen hf hd => exact .posts hopen hf hd
  | exported hopen hf hd => exact .posts hopen hf hd

theorem result_eq_forumNotFound_iff {i : Int64} :
    run.result = .error (.forumNotFound i) ↔ i = id ∧ store.FindsNothing (.forum id) := by
  cases h with
  | refused h => exact iff_of_false nofun fun hnothing => h hnothing.2.1
  | forumUnread _ h => exact iff_of_false nofun fun hnothing => h (.inl hnothing.2.2)
  | forumMissing h => exact ⟨fun hi => by cases hi; exact ⟨rfl, h⟩, fun hi => by rw [hi.1]⟩
  | discussionUnread _ hf | discussionMissing hf | postsUnread _ hf | exported _ hf =>
    exact iff_of_false nofun fun hnothing => hf.not_findsNothing hnothing.2

theorem result_eq_discussionNotFound_iff {i : Int64} :
    run.result = .error (.discussionNotFound i) ↔
      ∃ f, store.Finds Forum.cells (.forum id) f ∧ i = f.id ∧
        store.FindsNothing (.latestDiscussion f.id) := by
  cases h with
  | refused h => exact iff_of_false nofun fun ⟨_, _, _, hnothing⟩ => h hnothing.1
  | forumUnread _ h => exact iff_of_false nofun fun ⟨f, hf, _⟩ => h (.inr ⟨f, hf⟩)
  | forumMissing h => exact iff_of_false nofun fun ⟨_, hf, _⟩ => hf.not_findsNothing h
  | discussionUnread _ hf h =>
    -- The forum that a store finds is one, so both sides are about the same discussion.
    refine iff_of_false nofun ?_
    rintro ⟨f', hf', -, hnothing⟩
    cases hf.unique Forum.reads_cells hf'
    exact h (.inl hnothing.2)
  | discussionMissing hf h =>
    constructor
    · intro hi
      cases hi
      exact ⟨_, hf, rfl, h⟩
    · rintro ⟨f', hf', rfl, -⟩
      rw [hf.unique Forum.reads_cells hf']
  | postsUnread _ hf hd | exported _ hf hd =>
    refine iff_of_false nofun ?_
    rintro ⟨f', hf', -, hnothing⟩
    cases hf.unique Forum.reads_cells hf'
    exact hd.not_findsNothing hnothing

/-- A fault is a refused connection, or a last statement whose answer cannot be read. -/
theorem isFault_iff : (∃ fault, run.result = .error (.internal fault)) ↔
    store.refusal ≠ none ∨ ∃ last, run.sent.getLast? = some last ∧ ¬ store.IsReadable last := by
  cases h with
  | refused h => exact iff_of_true ⟨_, rfl⟩ (.inl h)
  | forumUnread _ h | discussionUnread _ _ h | postsUnread _ _ _ h =>
    exact iff_of_true ⟨_, rfl⟩ (.inr ⟨_, rfl, h⟩)
  | forumMissing h | discussionMissing _ h =>
    refine iff_of_false nofun ?_
    rintro (hrefused | ⟨last, hlast, hread⟩)
    · exact hrefused h.1
    · cases hlast
      exact hread (.inl h.2)
  | exported hopen _ _ h =>
    refine iff_of_false nofun ?_
    rintro (hrefused | ⟨last, hlast, hread⟩)
    · exact hrefused hopen
    · cases hlast
      exact hread ⟨_, h⟩

theorem result_eq_ok_iff {dataset : Export.Dataset} :
    run.result = .ok dataset ↔ store.refusal = none ∧
      ∃ f d posts, store.Finds Forum.cells (.forum id) f ∧
        store.Finds Discussion.cells (.latestDiscussion f.id) d ∧
        store.ListsPosts d.id posts ∧ dataset = .ofPosts posts := by
  cases h with
  | refused h => exact iff_of_false nofun fun hok => h hok.1
  | forumUnread _ h => exact iff_of_false nofun fun ⟨_, f, _, _, hf, _⟩ => h (.inr ⟨f, hf⟩)
  | forumMissing h => exact iff_of_false nofun fun ⟨_, _, _, _, hf, _⟩ => hf.not_findsNothing h
  | discussionUnread _ hf h =>
    refine iff_of_false nofun ?_
    rintro ⟨-, f', d, -, hf', hd, -⟩
    cases hf.unique Forum.reads_cells hf'
    exact h (.inr ⟨d, hd⟩)
  | discussionMissing hf h =>
    refine iff_of_false nofun ?_
    rintro ⟨-, f', d, -, hf', hd, -⟩
    cases hf.unique Forum.reads_cells hf'
    exact hd.not_findsNothing h
  | postsUnread _ hf hd h =>
    refine iff_of_false nofun ?_
    rintro ⟨-, f', d', posts, hf', hd', hposts, -⟩
    cases hf.unique Forum.reads_cells hf'
    cases hd.unique Discussion.reads_cells hd'
    exact h ⟨posts, hposts⟩
  | exported hopen hf hd h =>
    constructor
    · intro hok
      cases hok
      exact ⟨hopen, _, _, _, hf, hd, h, rfl⟩
    · rintro ⟨-, f', d', posts, hf', hd', hposts, rfl⟩
      cases hf.unique Forum.reads_cells hf'
      cases hd.unique Discussion.reads_cells hd'
      rw [h.unique hposts]

/-- A download fails for a missing record or a fault. -/
theorem result_eq_error {e : ReportError} (he : run.result = .error e) :
    (∃ i, e = .forumNotFound i) ∨ (∃ i, e = .discussionNotFound i) ∨ e.IsFault := by
  cases h with
  | refused | forumUnread | discussionUnread | postsUnread =>
    cases he
    exact .inr (.inr ⟨_, rfl⟩)
  | forumMissing =>
    cases he
    exact .inl ⟨_, rfl⟩
  | discussionMissing =>
    cases he
    exact .inr (.inl ⟨_, rfl⟩)
  | exported => cases he

end DiscussionRun

end Report

end ForumSummary
