import ForumSummary.Proofs.Http.Outcomes
import ForumSummary.Proofs.Store.Wording

/-!
# Faults are not told

What the server says about a fault does not show in an answer. All sessions of the routes ignore the
texts of failures, and errors that differ in such texts have one response, so two stores that differ
in such texts only are indistinguishable from outside, for every request. A route that succeeds
never gives an internal error (`status_ne_internalError_of_readRoute`), so all internal errors have
the same words (`answer_hides_faults`). To HEAD not even these are sent (`head_answer_of_fault`).
-/

namespace ForumSummary

open Session (IgnoresTexts)

/-! ## Sessions of reports -/

theorem Query.Call.ignoresTexts_perform (q : Query) (timeout : Nat) (call : Call) :
    IgnoresTexts (call.perform q timeout) := by
  cases call with
  | countRows => exact (IgnoresTexts.bound _).bind fun c => .inTransaction _ _ (.count c)
  | fetchPage request => exact (IgnoresTexts.bound _).bind fun b => .inTransaction _ _ (.rows b)
  | fetchAll order => exact (IgnoresTexts.bound _).bind fun b => .inTransaction _ _ (.rows b)
  | page request =>
    exact (IgnoresTexts.bound _).bind fun c => (IgnoresTexts.bound _).bind fun b =>
      .inTransaction _ _ ((IgnoresTexts.count c).bind fun _ =>
        (IgnoresTexts.rows b).bind fun _ => .pure _)

namespace Report

variable (settings : Settings) (request : Request)

theorem Scope.ignoresTexts_resolve (courseId forumId : Int64) :
    IgnoresTexts (resolve courseId forumId) := by
  unfold resolve
  split
  · exact (IgnoresTexts.ask _ _ _).bind fun _ => .orFail _ _
  · split
    · exact (IgnoresTexts.ask _ _ _).bind fun _ => .orFail _ _
    · exact .fail _

theorem Plan.ignoresTexts_prepare : IgnoresTexts (prepare request) :=
  (Scope.ignoresTexts_resolve _ _).bind fun _ => (IgnoresTexts.ask _ _ _).bind fun _ =>
    .ofExcept _

theorem View.ignoresTexts_make : IgnoresTexts (make settings request) :=
  (Plan.ignoresTexts_prepare request).bind fun plan =>
    (Query.Call.ignoresTexts_perform plan.query _ (.page _)).bind fun _ => .pure _

theorem ignoresTexts_exportRows : IgnoresTexts (exportRows settings request) :=
  (Plan.ignoresTexts_prepare request).bind fun plan =>
    Query.Call.ignoresTexts_perform plan.query _ (.fetchAll _)

theorem ignoresTexts_exportDiscussion (forumId : Int64) :
    IgnoresTexts (exportDiscussion forumId) :=
  (IgnoresTexts.ask _ _ _).bind fun _ => (IgnoresTexts.orFail _ _).bind fun _ =>
    (IgnoresTexts.ask _ _ _).bind fun _ => (IgnoresTexts.orFail _ _).bind fun _ =>
      (IgnoresTexts.ask _ _ _).bind fun _ => .pure _

end Report

namespace Http

open Report (Settings)

/-! ## Routes -/

variable {settings : Settings} {store store' : Store}

theorem ignoresTexts_health : IgnoresTexts health := by
  refine IgnoresTexts.ping.bind fun alive => ?_
  split
  · exact .pure _
  · exact .pure _

theorem ignoresTexts_summaryOf (parameters : SummaryParameters) :
    IgnoresTexts (summaryOf settings parameters) := by
  refine (IgnoresTexts.ofExcept _).bind fun wanted => ?_
  split
  · exact (Report.ignoresTexts_exportRows _ _).bind fun _ => .pure _
  · exact (Report.View.ignoresTexts_make _ _).bind fun _ => .pure _

theorem ignoresTexts_readRoute (query : List Char) (route : Route) :
    IgnoresTexts (readRoute settings query route) := by
  cases route with
  | health => exact ignoresTexts_health
  | summary =>
    simp only [readRoute, summary]
    split
    · exact .pure _
    · exact ignoresTexts_summaryOf _
  | discussion forum =>
    simp only [readRoute, discussion]
    split
    · exact .pure _
    · split
      · exact .pure _
      · exact (IgnoresTexts.ofExcept _).bind fun _ =>
          (Report.ignoresTexts_exportDiscussion _).bind fun _ => .pure _
  | timestamps => exact .pure _

/-- Errors that differ in texts of the server are answered alike. -/
theorem Response.ofError_eq_of_sameButTexts {e e' : ReportError} (h : e.SameButTexts e') :
    ofError e = ofError e' := by
  cases h <;> rfl

theorem Exchange.of_eq_of_ignoresTexts {session : Session Response} (hs : IgnoresTexts session)
    (h : store.SameButTexts store') : Exchange.of session store = Exchange.of session store' := by
  have hrun := hs h
  unfold Exchange.of
  generalize session store = run at hrun
  generalize session store' = run' at hrun
  cases hrun with
  | ok => rfl
  | error he sent => exact congrArg (Exchange.mk · sent) (Response.ofError_eq_of_sameButTexts he)

/-! ## Internal errors -/

theorem Response.ofError_eq_plain {e : ReportError} (h : (ofError e).status = .internalError) :
    ofError e = plain .internalError "internal server error" := by
  cases e with
  | unknownFilterKind | invalidFilterArity | mismatchedFilterKey | internal => rfl
  | _ => cases h

section
variable {query : List Char} {r : Response}

theorem status_ne_internalError_of_health (h : (health store).result = .ok r) :
    r.status ≠ .internalError := by
  obtain ⟨alive, -, hr⟩ := Session.bind_eq_ok_iff.1 h
  cases alive <;> cases hr <;> rintro ⟨⟩

theorem status_ne_internalError_of_summary (h : (summary settings query store).result = .ok r) :
    r.status ≠ .internalError := by
  cases hread : SummaryParameters.ofPairs (formPairs query) with
  | error e =>
    simp only [summary, hread] at h
    cases h
    rintro ⟨⟩
  | ok parameters =>
    simp only [summary, hread] at h
    cases hwanted : parameters.toRequest with
    | error e =>
      rw [summaryOf, hwanted] at h
      cases h
    | ok wanted =>
      rw [status_of_summaryOf hwanted h]
      rintro ⟨⟩

theorem status_ne_internalError_of_discussion {forum : String}
    (h : (discussion forum query store).result = .ok r) : r.status ≠ .internalError := by
  cases hid : forumId forum with
  | error message =>
    simp only [discussion, hid] at h
    cases h
    rintro ⟨⟩
  | ok id =>
    cases hread : formatOfPairs (formPairs query) with
    | error e =>
      simp only [discussion, hid, hread] at h
      cases h
      rintro ⟨⟩
    | ok text =>
      simp only [discussion, hid, hread, Session.bind_eq_ok_iff] at h
      obtain ⟨_, _, _, _, hr⟩ := h
      cases hr
      rintro ⟨⟩

/-- A route that succeeds does not give an internal error. -/
theorem status_ne_internalError_of_readRoute {route : Route}
    (h : (readRoute settings query route store).result = .ok r) : r.status ≠ .internalError := by
  cases route with
  | health => exact status_ne_internalError_of_health h
  | summary => exact status_ne_internalError_of_summary h
  | discussion forum => exact status_ne_internalError_of_discussion h
  | timestamps =>
    cases h
    rintro ⟨⟩

end

theorem response_of_readRoute {query : List Char} {route : Route}
    (h : (Exchange.of (readRoute settings query route) store).response.status = .internalError) :
    (Exchange.of (readRoute settings query route) store).response =
      .plain .internalError "internal server error" := by
  cases hresult : (readRoute settings query route store).result with
  | ok r =>
    rw [Exchange.response_of_ok hresult] at h
    exact absurd h (status_ne_internalError_of_readRoute hresult)
  | error e =>
    rw [Exchange.response_of_error hresult] at h ⊢
    exact Response.ofError_eq_plain h

theorem status_timestamps (contentType : Option String) (body : String) :
    (timestamps contentType body).status ≠ .internalError := by
  unfold timestamps
  split
  · split
    · rintro ⟨⟩
    · next e _ => cases e <;> rintro ⟨⟩
  · rintro ⟨⟩

/-! ## The answer -/

theorem status_of_code_eq {status : Status} (h : status.code = 500) : status = .internalError := by
  cases status <;> first | rfl | cases h

theorem answer_eq_of_sameButTexts (settings : Settings) (h : store.SameButTexts store')
    (request : Request) : answer settings store' request = answer settings store request := by
  simp only [answer, Exchange.of_eq_of_ignoresTexts (ignoresTexts_readRoute _ _) h]

theorem response_of_internalError {request : Request}
    (h : (answer settings store request).response.status = .internalError) :
    (answer settings store request).response =
      .plain .internalError (if request.method = "HEAD" then "" else "internal server error") := by
  cases hroute : Route.ofPath? (Target.ofText request.target).path with
  | none =>
    simp only [answer, hroute] at h
    cases h
  | some route =>
    cases hread : route.isRead with
    | false =>
      simp only [answer, hroute, hread, Bool.false_eq_true, if_false] at h
      split at h
      · exact absurd h (status_timestamps _ _)
      · cases h
    | true =>
      simp only [answer, hroute, hread, if_true] at h ⊢
      by_cases hget : request.method = "GET"
      · have hhead : request.method ≠ "HEAD" := by rw [hget]; decide
        rw [if_pos hget] at h ⊢
        rw [if_neg hhead]
        exact response_of_readRoute h
      · rw [if_neg hget] at h ⊢
        by_cases hhead : request.method = "HEAD"
        · rw [if_pos hhead] at h ⊢
          rw [if_pos hhead]
          exact congrArg Response.withoutBody (response_of_readRoute h)
        · rw [if_neg hhead] at h
          cases h

/-- On two stores that differ in nothing but the texts of their failures, a request has the same
response and sends the same statements. All internal errors are told by the same words; a request
for no body does not get them. -/
theorem answer_hides_faults (settings : Settings) (store store' : Store)
    (h : store.SameButTexts store') (request : Request) :
    answer settings store' request = answer settings store request ∧
      ((answer settings store request).response.status.code = 500 →
        (answer settings store request).response = .plain .internalError
          (if request.method = "HEAD" then "" else "internal server error")) :=
  ⟨answer_eq_of_sameButTexts settings h request,
    fun hcode => response_of_internalError (status_of_code_eq hcode)⟩

/-- A store whose transactions are not committed, in the words of the server. -/
def uncommitted (text : String) : Store where
  refusal := none
  reply
    | .commit => .failure text
    | s => Store.sample.reply s

/-- A report is read whole, and its transaction then fails in one way or another. -/
theorem answer_hides_faults_uncommitted :
    let settings : Settings := ⟨.ofNumbers 25 500, 10000⟩
    let request : Request := ⟨"GET", "/forum/report/summary?courseid=9", none, ""⟩
    let store := uncommitted "could not serialize access"
    let store' := uncommitted "server closed the connection"
    (store.SameButTexts store' ∧ (answer settings store request).response.status.code = 500) ∧
      answer settings store' request = answer settings store request ∧
      (answer settings store request).response =
        .plain .internalError "internal server error" := by
  intro settings request store store'
  have hstores : store.SameButTexts store' := by
    refine ⟨rfl, fun s => ?_⟩
    cases s with
    | commit => exact .failure _ _
    | _ => exact .rows _
  obtain ⟨hsame, hfault⟩ := answer_hides_faults settings store store' hstores request
  have hcode : (answer settings store request).response.status.code = 500 := by decide +kernel
  exact ⟨⟨hstores, hcode⟩, hsame, hfault hcode⟩

/-- A request for no body does not get the words, when the forum cannot be looked up. -/
theorem head_answer_of_fault :
    let store : Store := ⟨none, fun _ => .failure "relation does not exist"⟩
    let exchange := answer ⟨.ofNumbers 25 500, 10000⟩ store ⟨"HEAD", "/forum/4/export", none, ""⟩
    exchange.response.status.code = 500 ∧ exchange.response.body ≠ "internal server error" := by
  intro store exchange
  have hresponse : exchange.response = .plain .internalError "" := by rfl
  rw [hresponse]
  exact ⟨rfl, by decide⟩

end Http

end ForumSummary
