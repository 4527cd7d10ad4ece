import ForumSummary.Proofs.Report.Plans
import ForumSummary.Proofs.Report.Windows

/-!
# Deliveries

The rows of an export are made of a delivery: what its look-ups find, and all rows in the answer to
its statement (`exportRows_of_delivery`, `exists_delivery`). Its session goes on for as long as what
it sends is served: it gives rows when and only when each statement that it sends finds what it asks
for or is answered with what can be read (`exportRows_succeedsWhenServed`).
-/

namespace ForumSummary

/-- The store answers a statement with what an export can go on from: a look-up of a record finds
one, and the groups of a course or the rows of a report can all be read. -/
def Store.Serves (store : Store) : Statement → Prop
  | .forum id => ∃ f, store.Finds Forum.cells (.forum id) f
  | .course id => ∃ c, store.Finds Course.cells (.course id) c
  | .courseGroups id => ∃ groups, store.ListsGroups id groups
  | s => store.Answers s

/-! ## Sessions that need to be served -/

namespace Session

variable {α β : Type} {store : Store}

/-- On an open store the session succeeds when and only when each statement that it sends is served.
-/
def SucceedsWhenServed (session : Session α) : Prop :=
  ∀ store : Store, store.refusal = none →
    ((∃ a, (session store).result = .ok a) ↔ ∀ s ∈ (session store).sent, store.Serves s)

namespace SucceedsWhenServed

variable {session : Session α} {next : α → Session β}

protected theorem pure (a : α) : (pure a : Session α).SucceedsWhenServed :=
  fun _ _ => iff_of_true ⟨a, rfl⟩ (List.forall_mem_nil _)

theorem connect (step : Fault.Step) : (Session.connect step).SucceedsWhenServed := by
  intro store hopen
  rw [connect_of_open step hopen]
  exact iff_of_true ⟨(), rfl⟩ (List.forall_mem_nil _)

protected theorem bind (hs : session.SucceedsWhenServed)
    (hn : ∀ a, (next a).SucceedsWhenServed) : (session >>= next).SucceedsWhenServed := by
  intro store hopen
  have hfirst := hs store hopen
  cases hrun : session store with
  | mk result sent =>
    rw [hrun] at hfirst
    cases result with
    | error e =>
      rw [bind_of_error hrun]
      refine iff_of_false ?_ fun hserved => ?_
      · rintro ⟨_, hb⟩
        cases hb
      · obtain ⟨_, ha⟩ := hfirst.2 hserved
        cases ha
    | ok a =>
      have hserved : ∀ s ∈ sent, store.Serves s := hfirst.1 ⟨a, rfl⟩
      rw [bind_of_ok hrun, hn a store hopen, List.forall_mem_append]
      exact ⟨fun h => ⟨hserved, h⟩, fun h => h.2⟩

end SucceedsWhenServed

/-- A look-up of a record sends one statement. -/
theorem sent_find_of_open {step : Fault.Step} {s : Statement} {ofCells? : List Cell → Option α}
    {e : ReportError} {make : α → β} (hopen : store.refusal = none) :
    ((ask step s (readFirst ofCells?) >>= fun found => orFail e (found.map make)) store).sent =
      [s] := by
  have hask := sent_ask_of_open step s (readFirst ofCells?) hopen
  cases hrun : ask step s (readFirst ofCells?) store with
  | mk result sent =>
    rw [hrun] at hask
    cases result with
    | error e' => rw [bind_of_error hrun, hask]
    | ok found =>
      obtain rfl : sent = [s] := hask
      rw [bind_of_ok hrun]
      cases found <;> rfl

theorem SucceedsWhenServed.find {step : Fault.Step} {s : Statement}
    {ofCells? : List Cell → Option α} {cells : α → List Cell} {e : ReportError} {make : α → β}
    (hreads : Cell.Reads ofCells? cells)
    (hserves : ∀ store : Store, store.Serves s ↔ ∃ a, store.Finds cells s a) :
    (ask step s (readFirst ofCells?) >>=
      fun found => orFail e (found.map make)).SucceedsWhenServed := by
  intro store hopen
  rw [sent_find_of_open hopen, List.forall_mem_singleton, hserves store]
  constructor
  · rintro ⟨b, hb⟩
    obtain ⟨-, a, ha, -⟩ := find_eq_ok hreads hb
    exact ⟨a, ha⟩
  · rintro ⟨a, ha⟩
    exact ⟨_, find_of_finds hreads hopen ha⟩

theorem SucceedsWhenServed.courseGroups (courseId : Int64) :
    (Session.courseGroups courseId).SucceedsWhenServed := by
  intro store hopen
  have hsent : (Session.courseGroups courseId store).sent = [.courseGroups courseId] :=
    sent_ask_of_open _ _ _ hopen
  rw [hsent, List.forall_mem_singleton]
  simp only [courseGroups_eq_ok_iff, hopen, true_and]
  exact Iff.rfl

end Session

namespace Report

/-! ## Deliveries -/

/-- What the rows of an export are made of on a store: the scope and the groups that were looked up,
the statement for all rows, and the rows in the answer to it, with all of the transaction answered.
-/
structure Delivery (settings : Settings) (request : Request) (store : Store) where
  scope : Scope
  courseGroups : List CourseGroup
  statement : Sql.Bound
  rows : List Row
  connected : store.refusal = none
  named : Scope.IsNamed request.courseId request.forumId
  found : scope.IsFound store request.courseId request.forumId
  listed : store.ListsGroups scope.courseId courseGroups
  bound : ((Plan.assembled scope (.ofRequest courseGroups request.groups)
    request).query.rowStatement request.order).bind = .ok statement
  answered : ∀ s ∈ Statement.transaction settings.timeout [.rows statement], store.Answers s
  returned : store.Lists statement rows

variable {settings : Settings} {request : Request} {store : Store}

/-- The statements that a delivery takes. -/
def Delivery.script (d : Delivery settings request store) : List Statement :=
  [Scope.lookup request.courseId request.forumId, .courseGroups d.scope.courseId] ++
    Statement.transaction settings.timeout [.rows d.statement]

/-- An export with a delivery gives its rows and sends its statements. -/
theorem exportRows_of_delivery (d : Delivery settings request store) :
    exportRows settings request store = ⟨.ok d.rows, d.script⟩ := by
  have hprepare := Plan.prepare_of_found d.connected d.named d.found d.listed
  have hfetch := Query.fetchAll_of_answers d.connected d.bound d.answered d.returned
  rw [exportRows, Session.bind_of_ok hprepare, hfetch]
  rfl

/-- An export that gives rows has a delivery. -/
theorem exists_delivery {rows : List Row}
    (h : (exportRows settings request store).result = .ok rows) :
    ∃ d : Delivery settings request store, d.rows = rows := by
  obtain ⟨plan, hplan, hfetch⟩ := Session.bind_eq_ok_iff.1 h
  obtain ⟨hopen, hnamed, scope, courseGroups, hfound, hlisted, rfl⟩ :=
    Plan.prepare_eq_ok_iff.1 hplan
  obtain ⟨b, hb, -, hreturned⟩ := Query.fetchAll_of_ok hfetch
  have hfollows :=
    Query.Call.perform_follows settings.timeout (Query.Call.statements_fetchAll hb) hopen
  have hanswered := hfollows.isOk_iff_forall_answers.1 ⟨rows, hfetch⟩
  exact ⟨⟨scope, courseGroups, b, rows, hopen, hnamed, hfound, hlisted, hb, hanswered, hreturned⟩,
    rfl⟩

/-- The sample store delivers the posts of a forum. -/
theorem exists_delivery_sample (settings : Settings) :
    ∃ d : Delivery settings { forumId := 4 } .sample,
      d.rows = [⟨7, "ada", "Ada", "Byron", none, 2, 0⟩] := by
  let scope : Scope := .ofForum ⟨4, 9, "News"⟩
  let courseGroups : List CourseGroup := [⟨3, 9, "Red"⟩]
  obtain ⟨b, hb⟩ := (Plan.assembled scope (.ofRequest courseGroups []) { forumId := 4 }
    ).query.exists_bind_rowStatement {}
  have hreturned : Store.sample.Lists b [⟨7, "ada", "Ada", "Byron", none, 2, 0⟩] :=
    ⟨_, rfl, .cons (List.prefix_refl _) .nil⟩
  have hfound : scope.IsFound .sample 0 4 := by
    rw [Scope.IsFound, if_pos (by decide)]
    exact ⟨⟨4, 9, "News"⟩, ⟨_, [], rfl, List.prefix_refl _⟩, rfl⟩
  have hanswered : ∀ s ∈ Statement.transaction settings.timeout [.rows b],
      Store.sample.Answers s := by
    intro s hs
    rcases Statement.mem_transaction_singleton_iff.1 hs with rfl | rfl | rfl | rfl
    case inr.inr.inl => exact ⟨_, hreturned⟩
    all_goals exact ⟨_, rfl⟩
  have hlisted : Store.sample.ListsGroups scope.courseId courseGroups :=
    ⟨_, rfl, .cons (List.prefix_refl _) .nil⟩
  exact ⟨⟨scope, courseGroups, b, _, rfl, .inl (by decide), hfound, hlisted, hb, hanswered,
    hreturned⟩, rfl⟩

/-! ## Exports that are served -/

theorem Scope.resolve_succeedsWhenServed {courseId forumId : Int64}
    (h : IsNamed courseId forumId) : (resolve courseId forumId).SucceedsWhenServed := by
  unfold resolve
  split
  · exact .find Forum.reads_cells fun _ => Iff.rfl
  · next hforum =>
    rw [if_pos (h.resolve_left hforum)]
    exact .find Course.reads_cells fun _ => Iff.rfl

theorem fetchAll_succeedsWhenServed (q : Query) (timeout : Nat) (order : SortOrder) :
    (q.fetchAll timeout order).SucceedsWhenServed := by
  intro store hopen
  obtain ⟨b, hb⟩ := q.exists_bind_rowStatement order
  have hfollows := Query.Call.perform_follows timeout (Query.Call.statements_fetchAll hb) hopen
  have hserves : ∀ s ∈ (q.fetchAll timeout order store).sent,
      (store.Serves s ↔ store.Answers s) := by
    intro s hs
    have hscript := hfollows.sent_isPrefix.subset hs
    rcases Statement.mem_transaction_singleton_iff.1 hscript with rfl | rfl | rfl | rfl
    all_goals exact Iff.rfl
  exact hfollows.isOk_iff_forall_sent.trans
    (forall₂_congr fun s hs => (hserves s hs).symm)

theorem exportRows_succeedsWhenServed
    (h : Scope.IsNamed request.courseId request.forumId) :
    (exportRows settings request).SucceedsWhenServed := by
  have hprepare : (Plan.prepare request).SucceedsWhenServed := by
    refine (Scope.resolve_succeedsWhenServed h).bind fun scope =>
      (Session.SucceedsWhenServed.courseGroups _).bind fun courseGroups => ?_
    rw [Plan.of_eq_ok]
    exact .pure _
  exact hprepare.bind fun plan => fetchAll_succeedsWhenServed plan.query _ _

end Report

end ForumSummary
