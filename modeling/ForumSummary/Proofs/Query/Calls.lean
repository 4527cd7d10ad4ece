import ForumSummary.Proofs.Page
import ForumSummary.Proofs.Sql.Binding
import ForumSummary.Proofs.Store.Failures
import ForumSummary.Proofs.Store.Transaction
import ForumSummary.Query.Session

/-!
# Calls

A query is run in four ways: for the number of rows, for one page, for all rows, and for a page
with the number of rows. Each way is a transaction of one statement or two, which are bound before
the first one is sent. `perform_transaction` says for all of them, on every store, what is sent,
when the call succeeds, where it stops, and what it returns.
-/

namespace ForumSummary

/-- A store that answers everything: each forum is in the course 9, which has the group 3 and one
user. -/
def Store.sample : Store where
  refusal := none
  reply
    | .course id => .rows [[.integer id, .text "Lean", .text "L"]]
    | .courseGroups id => .rows [[.integer 3, .integer id, .text "Red"]]
    | .forum id => .rows [[.integer id, .integer 9, .text "News"]]
    | .count _ => .rows [[.integer 1]]
    | .rows _ =>
      .rows [[.integer 7, .text "ada", .text "Ada", .text "Byron", .null, .integer 2, .integer 0]]
    | _ => .rows []

namespace Session

variable {α : Type} {s : Sql.Select}

theorem bound_bind_of_ok {b : Sql.Bound} (h : s.bind = .ok b) (next : Sql.Bound → Session α) :
    (bound s >>= next) = next b := by
  have hb : bound s = pure b := by
    rw [bound, h]
    rfl
  rw [hb, pure_bind]

theorem bound_bind_of_error {e : Sql.BindError} (h : s.bind = .error e)
    (next : Sql.Bound → Session α) (store : Store) :
    (bound s >>= next) store = ⟨.error (.internal (.binding e)), []⟩ := by
  have hb : bound s = fail (.internal (.binding e)) := by
    rw [bound, h]
    rfl
  rw [hb]
  rfl

end Session

namespace Query

/-- The four ways of running a query. -/
inductive Call where
  | countRows
  | fetchPage (request : PageRequest)
  | fetchAll (order : SortOrder)
  | page (request : PageRequest)
  deriving DecidableEq, Repr

namespace Call

/-- What a call returns. -/
def Result : Call → Type
  | .countRows => UInt64
  | .fetchPage _ => List Row
  | .fetchAll _ => List Row
  | .page _ => SummaryPage

/-- Runs a query. -/
def perform (q : Query) (timeout : Nat) : (call : Call) → Session call.Result
  | .countRows => q.countRows timeout
  | .fetchPage request => q.fetchPage timeout request
  | .fetchAll order => q.fetchAll timeout order
  | .page request => q.page timeout request

/-- The statements of a call, the count before the rows. -/
def statements (q : Query) : Call → Except Sql.BindError (List Statement)
  | .countRows => do
    let c ← q.countStatement.bind
    return [.count c]
  | .fetchPage request => do
    let b ← (q.pageStatement request).bind
    return [.rows b]
  | .fetchAll order => do
    let b ← (q.rowStatement order).bind
    return [.rows b]
  | .page request => do
    let c ← q.countStatement.bind
    let b ← (q.pageStatement request).bind
    return [.count c, .rows b]

/-- The texts of the statements of a call. -/
def texts (q : Query) : Call → List String
  | .countRows => [q.countStatement.parameterized]
  | .fetchPage request => [(q.pageStatement request).parameterized]
  | .fetchAll order => [(q.rowStatement order).parameterized]
  | .page request => [q.countStatement.parameterized, (q.pageStatement request).parameterized]

/-- The result of a call is what the store answers to the call's statements. A page has all rows of
the one answer and the number in the other, and what follows from it. -/
def IsAnswer (store : Store) (q : Query) : (call : Call) → call.Result → Prop
  | .countRows, total => ∃ c, q.countStatement.bind = .ok c ∧ store.Counts c total
  | .fetchPage request, rows => ∃ b, (q.pageStatement request).bind = .ok b ∧ store.Lists b rows
  | .fetchAll order, rows => ∃ b, (q.rowStatement order).bind = .ok b ∧ store.Lists b rows
  | .page request, answer => ∃ c b total rows,
    q.countStatement.bind = .ok c ∧ (q.pageStatement request).bind = .ok b ∧
      store.Counts c total ∧ store.Lists b rows ∧
      answer.rows = rows ∧ answer.total = total ∧ answer.IsNumbered request

variable {q : Query} {timeout : Nat} {store : Store} {call : Call}

/-- A call of one statement is bound when that statement is. -/
theorem eq_singleton_of_bound {s : Sql.Select} {f : Sql.Bound → Statement} {body : List Statement}
    (h : (do let b ← s.bind; return [f b] : Except Sql.BindError (List Statement)) = .ok body) :
    ∃ b, s.bind = .ok b ∧ body = [f b] := by
  obtain ⟨b, hb, hbody⟩ := Except.bind_eq_ok_iff.1 h
  exact ⟨b, hb, (Except.ok.inj hbody).symm⟩

theorem eq_pair_of_bound {request : PageRequest} {body : List Statement}
    (h : (page request).statements q = .ok body) :
    ∃ c b, q.countStatement.bind = .ok c ∧ (q.pageStatement request).bind = .ok b ∧
      body = [.count c, .rows b] := by
  obtain ⟨c, hc, h'⟩ := Except.bind_eq_ok_iff.1 h
  obtain ⟨b, hb, hbody⟩ := Except.bind_eq_ok_iff.1 h'
  exact ⟨c, b, hc, hb, (Except.ok.inj hbody).symm⟩

theorem statements_countRows {c : Sql.Bound} (h : q.countStatement.bind = .ok c) :
    countRows.statements q = .ok [.count c] := by
  rw [statements, h]
  rfl

theorem statements_fetchAll {order : SortOrder} {b : Sql.Bound}
    (h : (q.rowStatement order).bind = .ok b) : (fetchAll order).statements q = .ok [.rows b] := by
  rw [statements, h]
  rfl

/-- A call whose statements cannot all be bound sends nothing. -/
theorem perform_of_unbound {e : Sql.BindError} (h : call.statements q = .error e) :
    call.perform q timeout store = ⟨.error (.internal (.binding e)), []⟩ := by
  cases call with
  | countRows =>
    obtain hc | ⟨_, _, ⟨⟩⟩ := Except.bind_eq_error_iff.1 h
    exact Session.bound_bind_of_error hc _ store
  | fetchPage request =>
    obtain hb | ⟨_, _, ⟨⟩⟩ := Except.bind_eq_error_iff.1 h
    exact Session.bound_bind_of_error hb _ store
  | fetchAll order =>
    obtain hb | ⟨_, _, ⟨⟩⟩ := Except.bind_eq_error_iff.1 h
    exact Session.bound_bind_of_error hb _ store
  | page request =>
    obtain hc | ⟨c, hc, h'⟩ := Except.bind_eq_error_iff.1 h
    · exact Session.bound_bind_of_error hc _ store
    obtain hb | ⟨_, _, ⟨⟩⟩ := Except.bind_eq_error_iff.1 h'
    show (Session.bound q.countStatement >>= _) store = _
    rw [Session.bound_bind_of_ok hc]
    exact Session.bound_bind_of_error hb _ store

/-- A call whose statements are bound is a transaction with a body that follows them. -/
theorem perform_of_bound (timeout : Nat) {body : List Statement}
    (h : call.statements q = .ok body) :
    ∃ (step : Fault.Step) (session : Session call.Result),
      call.perform q timeout = Session.inTransaction timeout step session ∧
      ∀ store : Store, store.refusal = none →
        Follows store (call.IsAnswer store q) body (session store) := by
  cases call with
  | countRows =>
    obtain ⟨c, hc, rfl⟩ := eq_singleton_of_bound h
    refine ⟨.commitCount, Session.count c, Session.bound_bind_of_ok hc _, fun store hopen => ?_⟩
    exact (Session.count_follows c hopen).mono fun _ ht => ⟨c, hc, ht⟩
  | fetchPage request =>
    obtain ⟨b, hb, rfl⟩ := eq_singleton_of_bound h
    refine ⟨.commitFetch, Session.rows b, Session.bound_bind_of_ok hb _, fun store hopen => ?_⟩
    exact (Session.rows_follows b hopen).mono fun _ hr => ⟨b, hb, hr⟩
  | fetchAll order =>
    obtain ⟨b, hb, rfl⟩ := eq_singleton_of_bound h
    refine ⟨.commitFetch, Session.rows b, Session.bound_bind_of_ok hb _, fun store hopen => ?_⟩
    exact (Session.rows_follows b hopen).mono fun _ hr => ⟨b, hb, hr⟩
  | page request =>
    obtain ⟨c, b, hc, hb, rfl⟩ := eq_pair_of_bound h
    refine ⟨.commitReport, _,
      (Session.bound_bind_of_ok hc _).trans (Session.bound_bind_of_ok hb _), fun store hopen => ?_⟩
    exact (Session.count_follows c hopen).bind fun total ht =>
      (Session.rows_follows b hopen).bind fun rows hr =>
        .pure ⟨c, b, total, rows, hc, hb, ht, hr, rfl, rfl, SummaryPage.isNumbered_ofRows⟩

/-- The statements of a call have the call's texts, and none is a commit. -/
theorem texts_of_statements {body : List Statement} (h : call.statements q = .ok body) :
    body.map Statement.text = call.texts q ∧ .commit ∉ body := by
  have htext {s : Sql.Select} {b : Sql.Bound} (hb : s.bind = .ok b) : b.text = s.parameterized :=
    (Sql.Select.bind_eq_ok_iff.1 hb).1
  cases call with
  | countRows =>
    obtain ⟨c, hc, rfl⟩ := eq_singleton_of_bound h
    exact ⟨congrArg ([·]) (htext hc), by simp⟩
  | fetchPage request =>
    obtain ⟨b, hb, rfl⟩ := eq_singleton_of_bound h
    exact ⟨congrArg ([·]) (htext hb), by simp⟩
  | fetchAll order =>
    obtain ⟨b, hb, rfl⟩ := eq_singleton_of_bound h
    exact ⟨congrArg ([·]) (htext hb), by simp⟩
  | page request =>
    obtain ⟨c, b, hc, hb, rfl⟩ := eq_pair_of_bound h
    exact ⟨congrArg₂ ([·, ·]) (htext hc) (htext hb), by simp⟩

/-- On an open store a call whose statements are bound follows their transaction. -/
theorem perform_follows (timeout : Nat) {body : List Statement}
    (h : call.statements q = .ok body) (hopen : store.refusal = none) :
    Follows store (call.IsAnswer store q) (Statement.transaction timeout body)
      (call.perform q timeout store) := by
  obtain ⟨step, session, hperform, hsession⟩ := perform_of_bound timeout h
  rw [hperform]
  exact Session.inTransaction_follows hopen (hsession store hopen)

/-- Without a connection a call sends nothing and fails. -/
theorem perform_of_refused (q : Query) (timeout : Nat) (call : Call) {text : String}
    (h : store.refusal = some text) :
    ∃ e, call.perform q timeout store = ⟨.error e, []⟩ := by
  cases hstatements : call.statements q with
  | error e => exact ⟨_, perform_of_unbound hstatements⟩
  | ok body =>
    obtain ⟨step, session, hperform, -⟩ := perform_of_bound timeout hstatements
    exact ⟨_, hperform ▸ Session.inTransaction_of_refused h⟩

/-- A call succeeds when and only when its statements are bound and an open store answers all of its
transaction. -/
theorem isOk_perform_iff : (∃ a, (call.perform q timeout store).result = .ok a) ↔
    store.refusal = none ∧ ∃ body, call.statements q = .ok body ∧
      ∀ s ∈ Statement.transaction timeout body, store.Answers s := by
  cases hstatements : call.statements q with
  | error e =>
    rw [perform_of_unbound hstatements]
    exact iff_of_false nofun fun ⟨_, _, h, _⟩ => nomatch h
  | ok body =>
    cases hrefusal : store.refusal with
    | some text =>
      obtain ⟨e, he⟩ := perform_of_refused q timeout call hrefusal
      rw [he]
      exact iff_of_false nofun fun h => nomatch h.1
    | none =>
      rw [(perform_follows timeout hstatements hrefusal).isOk_iff_forall_answers]
      exact ⟨fun h => ⟨rfl, body, rfl, h⟩, fun ⟨_, _, hbody, h⟩ => Except.ok.inj hbody ▸ h⟩

/-- What was sent and answered when a call succeeds. -/
theorem perform_of_ok (call : Call) {a : call.Result}
    (h : (call.perform q timeout store).result = .ok a) :
    ∃ body, call.statements q = .ok body ∧
      (call.perform q timeout store).sent = Statement.transaction timeout body ∧
      call.IsAnswer store q a := by
  cases hstatements : call.statements q with
  | error e => rw [perform_of_unbound hstatements] at h; cases h
  | ok body =>
    cases hrefusal : store.refusal with
    | some text =>
      obtain ⟨e, he⟩ := perform_of_refused q timeout call hrefusal
      rw [he] at h
      cases h
    | none =>
      have hfollows := perform_follows timeout hstatements hrefusal
      exact ⟨body, rfl, (hfollows.isOk_iff_transaction.1 ⟨a, h⟩).1, hfollows.right_of_ok h⟩

/-- A call whose statements are bound fails at what the store answers, or at a negative count. -/
theorem failsOnly_perform_of_bound {P : ReportError → Prop}
    (hserver : ∀ step cause, P (.internal (.server step cause)))
    (hnegative : P (.internal .negativeTotal)) (timeout : Nat) {body : List Statement}
    (h : call.statements q = .ok body) : Session.FailsOnly P (call.perform q timeout) := by
  cases call with
  | countRows =>
    obtain ⟨c, hc, -⟩ := eq_singleton_of_bound h
    have hcall : Session.FailsOnly P (q.countRows timeout) := by
      rw [Query.countRows, Session.bound_bind_of_ok hc]
      exact .inTransaction hserver _ _ (.count hserver hnegative c)
    exact hcall
  | fetchPage request =>
    obtain ⟨b, hb, -⟩ := eq_singleton_of_bound h
    have hcall : Session.FailsOnly P (q.fetchPage timeout request) := by
      rw [Query.fetchPage, Session.bound_bind_of_ok hb]
      exact .inTransaction hserver _ _ (.rows hserver b)
    exact hcall
  | fetchAll order =>
    obtain ⟨b, hb, -⟩ := eq_singleton_of_bound h
    have hcall : Session.FailsOnly P (q.fetchAll timeout order) := by
      rw [Query.fetchAll, Session.bound_bind_of_ok hb]
      exact .inTransaction hserver _ _ (.rows hserver b)
    exact hcall
  | page request =>
    obtain ⟨c, b, hc, hb, -⟩ := eq_pair_of_bound h
    have hcall : Session.FailsOnly P (q.page timeout request) := by
      rw [Query.page, Session.bound_bind_of_ok hc, Session.bound_bind_of_ok hb]
      exact .inTransaction hserver _ _ ((Session.FailsOnly.count hserver hnegative c).bind fun _ =>
        (Session.FailsOnly.rows hserver b).bind fun _ => .pure _)
    exact hcall

/-- The errors of a call are faults. -/
theorem failsOnly_perform {P : ReportError → Prop} (hP : ∀ fault, P (.internal fault)) (q : Query)
    (timeout : Nat) (call : Call) : Session.FailsOnly P (call.perform q timeout) := by
  cases hstatements : call.statements q with
  | error e =>
    intro store e' he
    rw [perform_of_unbound hstatements] at he
    cases he
    exact hP _
  | ok body =>
    exact failsOnly_perform_of_bound (fun _ _ => hP _) (hP _) timeout hstatements

/-- Everything that a call does on a store. Nothing is sent when a statement cannot be bound or the
store refuses the connection. Otherwise the statements sent are the first ones of a transaction, all
of them when and only when the call succeeds, and a call that fails does so at the statement it
sends last, the first one that the store does not answer. -/
theorem perform_transaction (q : Query) (timeout : Nat) (call : Call) (store : Store) :
    let run := call.perform q timeout store
    (∀ e, call.statements q = .error e →
      run.sent = [] ∧ run.result = .error (.internal (.binding e))) ∧
    (store.refusal ≠ none → run.sent = [] ∧ ∃ e, run.result = .error e) ∧
    ∀ body, call.statements q = .ok body → store.refusal = none →
      let script := Statement.transaction timeout body
      script.map Statement.text =
        ["BEGIN", "SET LOCAL statement_timeout = " ++ Numeral.natText timeout] ++ call.texts q ++
          ["COMMIT"] ∧
      run.sent <+: script ∧
      ((∃ a, run.result = .ok a) ↔ run.sent = script ∧ store.Answers .commit) ∧
      (∀ e, run.result = .error e →
        (.commit ∉ run.sent ∨ ¬ store.Answers .commit) ∧
        ∃ before last, run.sent = before ++ [last] ∧
          (∀ s ∈ before, store.Answers s) ∧ ¬ store.Answers last) ∧
      ∀ a, run.result = .ok a → call.IsAnswer store q a := by
  refine ⟨fun e he => ?_, fun hrefused => ?_, fun body hbody hopen => ?_⟩
  · rw [perform_of_unbound he]
    exact ⟨rfl, rfl⟩
  · obtain ⟨text, htext⟩ := Option.ne_none_iff_exists'.1 hrefused
    obtain ⟨e, he⟩ := perform_of_refused q timeout call htext
    rw [he]
    exact ⟨rfl, e, rfl⟩
  · have hfollows := perform_follows timeout hbody hopen
    obtain ⟨htexts, hcommit⟩ := texts_of_statements hbody
    refine ⟨?_, hfollows.sent_isPrefix, hfollows.isOk_iff_transaction, fun e he => ⟨?_, ?_⟩,
      fun a ha => hfollows.right_of_ok ha⟩
    · rw [Statement.map_text_transaction, htexts]
    · exact hfollows.commit_not_sent_or_not_answers hcommit he
    · exact hfollows.stopped_of_error he

/-- The first page of a course with one user, who has started two discussions. -/
theorem page_sample : ∃ body answer, (page {}).statements (ofCourse 9) = .ok body ∧
    ((page {}).perform (ofCourse 9) 10000 .sample).sent = Statement.transaction 10000 body ∧
    ((page {}).perform (ofCourse 9) 10000 .sample).result = .ok answer ∧
    answer.rows = [⟨7, "ada", "Ada", "Byron", none, 2, 0⟩] ∧ answer.total = 1 ∧
    answer.page = 1 ∧ answer.totalPages = 1 := by
  obtain ⟨-, -, h⟩ := perform_transaction (ofCourse 9) 10000 (page {}) .sample
  obtain ⟨-, -, hok, -, hanswer⟩ := h _ rfl rfl
  refine ⟨_, _, rfl, (hok.1 ⟨_, rfl⟩).1, rfl, ?_⟩
  obtain ⟨c, b, total, rows, -, -, htotal, hrows, hall, hnumber, hnumbers⟩ := hanswer _ rfl
  have hone : total = 1 := by
    obtain ⟨n, _, _, hreply, hn⟩ := htotal
    cases hreply
    exact UInt64.toNat_inj.1 (Int.ofNat_inj.1 hn.symm)
  have huser : rows = [⟨7, "ada", "Ada", "Byron", none, 2, 0⟩] :=
    hrows.unique ⟨_, rfl, .cons (List.prefix_refl _) .nil⟩
  refine ⟨hall.trans huser, hnumber.trans hone, UInt32.toNat_inj.1 hnumbers.page,
    UInt32.toNat_inj.1 (hnumbers.totalPages.trans ?_)⟩
  rw [hnumber, hone]
  rfl

end Call

variable {q : Query} {timeout : Nat} {store : Store}

theorem page_of_ok {request : PageRequest} {answer : SummaryPage}
    (h : (q.page timeout request store).result = .ok answer) :
    ∃ c b total rows, q.countStatement.bind = .ok c ∧ (q.pageStatement request).bind = .ok b ∧
      (q.page timeout request store).sent = Statement.transaction timeout [.count c, .rows b] ∧
      store.Counts c total ∧ store.Lists b rows ∧
      answer = SummaryPage.ofRows rows total request := by
  obtain ⟨body, hbody, hsent, c, b, total, rows, hc, hb, htotal, hrows, hanswer⟩ :=
    Call.perform_of_ok (.page request) h
  obtain ⟨c', b', hc', hb', rfl⟩ := Call.eq_pair_of_bound hbody
  obtain rfl := Except.ok.inj (hc.symm.trans hc')
  obtain rfl := Except.ok.inj (hb.symm.trans hb')
  exact ⟨c, b, total, rows, hc, hb, hsent, htotal, hrows, SummaryPage.eq_ofRows_iff.2 hanswer⟩

theorem fetchAll_of_ok {order : SortOrder} {rows : List Row}
    (h : (q.fetchAll timeout order store).result = .ok rows) :
    ∃ b, (q.rowStatement order).bind = .ok b ∧
      (q.fetchAll timeout order store).sent = Statement.transaction timeout [.rows b] ∧
      store.Lists b rows := by
  obtain ⟨body, hbody, hsent, b, hb, hrows⟩ := Call.perform_of_ok (.fetchAll order) h
  obtain ⟨b', hb', rfl⟩ := Call.eq_singleton_of_bound hbody
  obtain rfl := Except.ok.inj (hb.symm.trans hb')
  exact ⟨b, hb, hsent, hrows⟩

/-- A fetch of all rows whose transaction is answered gives the rows in the answer. -/
theorem fetchAll_of_answers {order : SortOrder} {b : Sql.Bound} {rows : List Row}
    (hopen : store.refusal = none) (hb : (q.rowStatement order).bind = .ok b)
    (hanswered : ∀ s ∈ Statement.transaction timeout [.rows b], store.Answers s)
    (hreturned : store.Lists b rows) :
    q.fetchAll timeout order store = ⟨.ok rows, Statement.transaction timeout [.rows b]⟩ := by
  have hfollows := Call.perform_follows timeout (Call.statements_fetchAll hb) hopen
  obtain ⟨rows', ⟨b', hb', hlists⟩, hfetch⟩ := hfollows.eq_of_forall_answers hanswered
  obtain rfl := Except.ok.inj (hb.symm.trans hb')
  obtain rfl := hlists.unique hreturned
  exact hfetch

end Query

end ForumSummary
