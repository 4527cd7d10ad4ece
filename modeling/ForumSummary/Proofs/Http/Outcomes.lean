import ForumSummary.Http.Server
import ForumSummary.Proofs.Http.GroupLists
import ForumSummary.Proofs.Report.Plans
import Mathlib.Data.List.DropRight

/-!
# Outcomes of the summary

What a request for the summary is answered with. Text parameters that do not read are refused before
anything is sent, the first of them in the order sort, direction, groups, format
(`toRequest_eq_error_iff`). What follows is one session for pages and downloads alike
(`summaryOf_eq`): the scope is looked up, then the groups of its course, then the query is run. So
the answer is a missing record, a fault, or the report (`answer_summary`).
-/

namespace ForumSummary.Http

open Report (Scope Plan Settings)

/-! ## Parameters that do not read -/

/-- A text parameter that is given: it is there and not blank, and the blanks at its ends do not
count. -/
def given (text : Option String) : Option String :=
  text.bind fun s =>
    if Text.AllBlank s.toList then none
    else some (String.ofList ((s.toList.dropWhile Text.isBlank).rdropWhile Text.isBlank))

/-- The error of a text parameter that is given and not good. -/
def offence (IsGood : String → Prop) [DecidablePred IsGood] (error : String → ReportError)
    (text : Option String) : Option ReportError :=
  (given text).bind (refusal IsGood error)

/-- The error of the first text parameter that names nothing or lists no groups. -/
def SummaryParameters.firstOffence (p : SummaryParameters) : Option ReportError :=
  [offence SortColumn.IsName .invalidSortColumn p.sort,
    offence SortDirection.IsName .invalidSortDirection p.direction,
    offence Report.IsGroupList .invalidGroupList p.groups,
    offence Export.Format.IsName .invalidExportFormat p.download].findSome? id

/-- The error is about a text that a caller gave. -/
def IsMisreading (e : ReportError) : Prop :=
  ∃ text, e ∈ [.invalidSortColumn text, .invalidSortDirection text, .invalidGroupList text,
    .invalidExportFormat text]

/-- The text that is read of a parameter is the one that is given. -/
theorem present_eq_given (text : Option String) : present text = given text := by
  cases text with
  | none => rfl
  | some s =>
    show (some (Text.trimmed s)).filter (· ≠ "") =
      if Text.AllBlank s.toList then none else some (Text.trimmed s)
    have hempty : Text.trimmed s = "" ↔ Text.AllBlank s.toList := by
      rw [← Text.trim_eq_nil_iff, Text.trimmed, String.ofList_eq_empty_iff]
    by_cases hblank : Text.AllBlank s.toList
    · rw [if_pos hblank, hempty.2 hblank]
      rfl
    · rw [if_neg hblank, Option.filter_some, if_pos (decide_eq_true (mt hempty.1 hblank))]

theorem ofError_of_isMisreading {e : ReportError} (h : IsMisreading e) :
    Response.ofError e = .plain .badRequest ("bad request: " ++ e.message) := by
  obtain ⟨text, h⟩ := h
  simp only [List.mem_cons, List.not_mem_nil, or_false] at h
  rcases h with rfl | rfl | rfl | rfl <;> rfl

section
variable {IsGood : String → Prop} [DecidablePred IsGood] {error : String → ReportError}
  {text : Option String}

theorem exists_of_offence {e : ReportError} (h : offence IsGood error text = some e) :
    ∃ s, e = error s := by
  obtain ⟨s, -, hs⟩ := Option.bind_eq_some_iff.1 h
  unfold refusal at hs
  split at hs
  · cases hs
  · cases hs
    exact ⟨s, rfl⟩

/-- A parameter offends when and only when it is not read, and with the error of its reader. -/
theorem offence_eq {α : Type} {read : String → Except ReportError α}
    (hreads : Reads read IsGood error) : offence IsGood error text =
      match SummaryParameters.readPresent text read with
      | .ok _ => none
      | .error e => some e := by
  unfold offence SummaryParameters.readPresent
  rw [present_eq_given]
  cases given text with
  | none => rfl
  | some s =>
    rw [Option.bind_some, hreads.refusal_eq]
    show _ = match (read s).map some with | .ok _ => none | .error e => some e
    cases read s <;> rfl

end

theorem isMisreading_of_firstOffence {p : SummaryParameters} {e : ReportError}
    (h : p.firstOffence = some e) : IsMisreading e := by
  obtain ⟨o, ho, he⟩ := List.exists_of_findSome?_eq_some h
  simp only [List.mem_cons, List.not_mem_nil, or_false] at ho
  rcases ho with rfl | rfl | rfl | rfl <;> obtain ⟨s, rfl⟩ := exists_of_offence he <;>
    exact ⟨s, by simp⟩

/-- A request is made of parameters unless one of them does not read; the first one decides. -/
theorem toRequest_eq_error_iff {p : SummaryParameters} {e : ReportError} :
    p.toRequest = .error e ↔ p.firstOffence = some e := by
  have hstop {β : Type} (e' : ReportError) :
      (.error e' : Except ReportError β) = .error e ↔ some e' = some e :=
    ⟨fun h => by cases h; rfl, fun h => by cases h; rfl⟩
  unfold SummaryParameters.toRequest SummaryParameters.firstOffence
  simp only [offence_eq SortColumn.reads_ofText, offence_eq SortDirection.reads_ofText,
    offence_eq Report.reads_groupsOfText, offence_eq Export.Format.reads_ofText]
  cases SummaryParameters.readPresent p.sort SortColumn.ofText with
  | error e' => exact hstop e'
  | ok column =>
  cases SummaryParameters.readPresent p.direction SortDirection.ofText with
  | error e' => exact hstop e'
  | ok direction =>
  cases SummaryParameters.readPresent p.groups Report.groupsOfText with
  | error e' => exact hstop e'
  | ok groups =>
  cases SummaryParameters.readPresent p.download Export.Format.ofText with
  | error e' => exact hstop e'
  | ok format => exact iff_of_false nofun nofun

/-- A request has the ids of the parameters; an absent id is 0. -/
theorem ids_of_toRequest {p : SummaryParameters} {wanted : Report.Request}
    {format : Option Export.Format} (h : p.toRequest = .ok (wanted, format)) :
    wanted.courseId = p.courseId.getD 0 ∧ wanted.forumId = p.forumId.getD 0 := by
  unfold SummaryParameters.toRequest at h
  obtain ⟨column, -, h⟩ := Except.bind_eq_ok_iff.1 h
  obtain ⟨direction, -, h⟩ := Except.bind_eq_ok_iff.1 h
  obtain ⟨groups, -, h⟩ := Except.bind_eq_ok_iff.1 h
  obtain ⟨download, -, h⟩ := Except.bind_eq_ok_iff.1 h
  cases h
  exact ⟨rfl, rfl⟩

theorem ofError_missing (courseId forumId : Int64) :
    Response.ofError (Scope.missing courseId forumId) =
      .plain .notFound (Scope.missing courseId forumId).message := by
  unfold Scope.missing
  split <;> rfl

section
variable {session : Session Response} {store : Store} {sent : List Statement}

theorem Exchange.response_of_ok {r : Response} (h : (session store).result = .ok r) :
    (Exchange.of session store).response = r := by
  simp only [Exchange.of, h]

theorem Exchange.response_of_error {e : ReportError} (h : (session store).result = .error e) :
    (Exchange.of session store).response = .ofError e := by
  simp only [Exchange.of, h]

theorem Exchange.of_eq_of_error {e : ReportError} (h : session store = ⟨.error e, sent⟩) :
    Exchange.of session store = ⟨.ofError e, sent⟩ := by
  simp only [Exchange.of, h]

end

/-! ## The session of a summary -/

section
variable (settings : Settings) (request : Report.Request) (format : Option Export.Format)

/-- The way in which the query of a summary is run: for all rows of a download, or for a page. -/
def summaryCall : Option Export.Format → Query.Call
  | some _ => .fetchAll request.order
  | none => .page (settings.limits.pageRequest request)

/-- The response to the result of the call. -/
def respond (plan : Plan) : (format : Option Export.Format) →
    (summaryCall settings request format).Result → Response
  | some format, rows => .download Report.summaryFileName format (.ofRows rows)
  | none, page => .json .ok (Report.View.of plan request page).toJson

theorem status_respond (plan : Plan) (result) :
    (respond settings request plan format result).status = .ok := by
  cases format <;> rfl

end

/-- The summary is the look-up of a scope, the groups of its course, and one call. -/
theorem summaryOf_eq {settings : Settings} {parameters : SummaryParameters}
    {request : Report.Request} {format : Option Export.Format}
    (h : parameters.toRequest = .ok (request, format)) :
    summaryOf settings parameters = do
      let scope ← Scope.resolve request.courseId request.forumId
      let courseGroups ← Session.courseGroups scope.courseId
      let plan := Plan.assembled scope (.ofRequest courseGroups request.groups) request
      let result ← (summaryCall settings request format).perform plan.query settings.timeout
      return respond settings request plan format result := by
  have hplan : Plan.prepare request = do
      let scope ← Scope.resolve request.courseId request.forumId
      let courseGroups ← Session.courseGroups scope.courseId
      return Plan.assembled scope (.ofRequest courseGroups request.groups) request := by
    simp only [Plan.prepare, Plan.of_eq_ok]
    rfl
  have hread : Session.ofExcept parameters.toRequest = pure (request, format) := by
    rw [h]
    rfl
  rw [summaryOf, hread, pure_bind]
  cases format with
  | some format =>
    simp only [Report.exportRows, hplan, bind_assoc, pure_bind]
    rfl
  | none =>
    simp only [Report.View.make, hplan, bind_assoc, pure_bind]
    rfl

section
variable {settings : Settings} {store : Store} {parameters : SummaryParameters}
  {wanted : Report.Request} {format : Option Export.Format}

/-- Every statement of a summary is bound, sent and answered with what can be read: the look-up
finds the scope, the groups of its course are listed, and all of the call's transaction is answered.
-/
def Answered (settings : Settings) (wanted : Report.Request) (format : Option Export.Format)
    (store : Store) : Prop :=
  store.refusal = none ∧ ∃ scope courseGroups body,
    Scope.IsFound store wanted.courseId wanted.forumId scope ∧
    store.ListsGroups scope.courseId courseGroups ∧
    (summaryCall settings wanted format).statements
      (Plan.assembled scope (.ofRequest courseGroups wanted.groups) wanted).query = .ok body ∧
    ∀ s ∈ Statement.transaction settings.timeout body, store.Answers s

variable (hwanted : parameters.toRequest = .ok (wanted, format))
include hwanted

/-- A summary that succeeds is answered with a report. -/
theorem status_of_summaryOf {r : Response}
    (h : (summaryOf settings parameters store).result = .ok r) : r.status = .ok := by
  simp only [summaryOf_eq hwanted, Session.bind_eq_ok_iff] at h
  obtain ⟨_, _, _, _, _, _, hr⟩ := h
  cases hr
  exact status_respond ..

variable (hids : Scope.IsNamed wanted.courseId wanted.forumId)
include hids

/-- A summary succeeds when and only when everything that it asks for is answered. -/
theorem isOk_summaryOf_iff : (∃ r, (summaryOf settings parameters store).result = .ok r) ↔
    Answered settings wanted format store := by
  simp only [summaryOf_eq hwanted, Session.bind_eq_ok_iff, Scope.resolve_eq_ok_iff hids,
    Session.courseGroups_eq_ok_iff]
  constructor
  · rintro ⟨_, scope, ⟨hopen, hfound⟩, courseGroups, ⟨-, hlists⟩, a, ha, -⟩
    obtain ⟨-, body, hbody, hanswers⟩ := Query.Call.isOk_perform_iff.1 ⟨a, ha⟩
    exact ⟨hopen, scope, courseGroups, body, hfound, hlists, hbody, hanswers⟩
  · rintro ⟨hopen, scope, courseGroups, body, hfound, hlists, hbody, hanswers⟩
    obtain ⟨a, ha⟩ := Query.Call.isOk_perform_iff.2 ⟨hopen, body, hbody, hanswers⟩
    exact ⟨_, scope, ⟨hopen, hfound⟩, courseGroups, ⟨hopen, hlists⟩, a, ha, rfl⟩

/-- When the look-up finds nothing, no other statement is sent. -/
theorem summaryOf_of_findsNothing
    (h : store.FindsNothing (Scope.lookup wanted.courseId wanted.forumId)) :
    summaryOf settings parameters store =
      ⟨.error (Scope.missing wanted.courseId wanted.forumId),
        [Scope.lookup wanted.courseId wanted.forumId]⟩ := by
  rw [summaryOf_eq hwanted]
  exact Session.bind_of_error (Scope.resolve_of_findsNothing hids h)

/-- A summary fails for a missing record or a fault. -/
theorem summaryOf_eq_error {e : ReportError}
    (h : (summaryOf settings parameters store).result = .error e) :
    store.FindsNothing (Scope.lookup wanted.courseId wanted.forumId) ∨ e.IsFault := by
  rw [summaryOf_eq hwanted] at h
  obtain hresolve | ⟨scope, -, hrest⟩ := Session.bind_eq_error_iff.1 h
  · exact Scope.resolve_eq_error hids hresolve
  · have hfault := ReportError.isFault_internal
    refine .inr (Session.FailsOnly.bind (.ask (fun _ _ => hfault _) _ _ _) (fun courseGroups => ?_)
      store e hrest)
    exact (Query.Call.failsOnly_perform hfault _ _ _).bind fun _ => .pure _

/-- The record is missing, or everything is answered, or there was a fault. -/
theorem exchange_cases (settings : Settings) (store : Store) :
    let exchange := Exchange.of (summaryOf settings parameters) store
    let lookup := Scope.lookup wanted.courseId wanted.forumId
    (store.FindsNothing lookup ∧ ¬ Answered settings wanted format store ∧
      exchange = ⟨.plain .notFound (Scope.missing wanted.courseId wanted.forumId).message,
        [lookup]⟩) ∨
    (¬ store.FindsNothing lookup ∧ Answered settings wanted format store ∧
      exchange.response.status = .ok) ∨
    (¬ store.FindsNothing lookup ∧ ¬ Answered settings wanted format store ∧
      exchange.response = .plain .internalError "internal server error") := by
  intro exchange lookup
  have hok : (∃ r, (summaryOf settings parameters store).result = .ok r) ↔
      Answered settings wanted format store := isOk_summaryOf_iff hwanted hids
  by_cases hnothing : store.FindsNothing lookup
  · have hrun : summaryOf settings parameters store = ⟨_, [lookup]⟩ :=
      summaryOf_of_findsNothing hwanted hids hnothing
    refine .inl ⟨hnothing, fun hanswered => ?_, ?_⟩
    · obtain ⟨r, hr⟩ := hok.2 hanswered
      rw [hrun] at hr
      cases hr
    · rw [← ofError_missing]
      exact Exchange.of_eq_of_error hrun
  · cases hresult : (summaryOf settings parameters store).result with
    | ok r =>
      refine .inr (.inl ⟨hnothing, hok.1 ⟨r, hresult⟩, ?_⟩)
      rw [Exchange.response_of_ok hresult]
      exact status_of_summaryOf hwanted hresult
    | error e =>
      obtain ⟨fault, rfl⟩ := (summaryOf_eq_error hwanted hids hresult).resolve_left hnothing
      refine .inr (.inr ⟨hnothing, fun hanswered => ?_, Exchange.response_of_error hresult⟩)
      obtain ⟨r, hr⟩ := hok.2 hanswered
      rw [hresult] at hr
      cases hr

end

/-! ## The answer -/

theorem answer_of_summary (settings : Settings) (store : Store) {request : Request}
    {parameters : SummaryParameters} (hget : request.method = "GET")
    (hroute : Route.ofPath? (Target.ofText request.target).path = some .summary)
    (hread : SummaryParameters.ofPairs (formPairs (Target.ofText request.target).query) =
      .ok parameters) :
    answer settings store request = Exchange.of (summaryOf settings parameters) store := by
  simp only [answer, hroute, hget, Route.isRead, readRoute, summary, hread, if_true]

/-- How a request for the summary is answered. The first text parameter that does not read is
refused, and then a request that names nothing, both before anything is sent. Otherwise the record
that is named is missing, everything is answered and the report is given, or there was a fault,
which is not told. -/
theorem answer_summary (settings : Settings) (store : Store) (request : Request)
    (parameters : SummaryParameters) (hget : request.method = "GET")
    (hroute : Route.ofPath? (Target.ofText request.target).path = some .summary)
    (hread : SummaryParameters.ofPairs (formPairs (Target.ofText request.target).query) =
      .ok parameters) :
    let exchange := answer settings store request
    (∀ e, parameters.firstOffence = some e →
      exchange = ⟨.plain .badRequest ("bad request: " ++ e.message), []⟩) ∧
    (parameters.firstOffence = none → ∃ wanted format,
      parameters.toRequest = .ok (wanted, format) ∧
      wanted.courseId = parameters.courseId.getD 0 ∧ wanted.forumId = parameters.forumId.getD 0 ∧
      let lookup := Scope.lookup wanted.courseId wanted.forumId
      let missing := Scope.missing wanted.courseId wanted.forumId
      (¬ Scope.IsNamed wanted.courseId wanted.forumId →
        exchange = ⟨.plain .badRequest ("bad request: " ++ ReportError.missingScope.message), []⟩) ∧
      (Scope.IsNamed wanted.courseId wanted.forumId →
        (exchange.response.status = .notFound ↔ store.FindsNothing lookup) ∧
        (exchange.response.status = .notFound →
          exchange = ⟨.plain .notFound missing.message, [lookup]⟩) ∧
        (exchange.response.status = .ok ↔ Answered settings wanted format store) ∧
        (exchange.response.status ≠ .notFound → exchange.response.status ≠ .ok →
          exchange.response = .plain .internalError "internal server error"))) := by
  intro exchange
  have hexchange : exchange = Exchange.of (summaryOf settings parameters) store :=
    answer_of_summary settings store hget hroute hread
  refine ⟨fun e he => ?_, fun hnone => ?_⟩
  · have hfail : summaryOf settings parameters store = ⟨.error e, []⟩ := by
      rw [summaryOf, toRequest_eq_error_iff.2 he]
      rfl
    rw [hexchange, Exchange.of_eq_of_error hfail,
      ofError_of_isMisreading (isMisreading_of_firstOffence he)]
  · cases hwanted : parameters.toRequest with
    | error e => rw [toRequest_eq_error_iff.1 hwanted] at hnone; cases hnone
    | ok pair =>
      obtain ⟨wanted, format⟩ := pair
      obtain ⟨hcourse, hforum⟩ := ids_of_toRequest hwanted
      refine ⟨wanted, format, rfl, hcourse, hforum, fun hunnamed => ?_, fun hnamed => ?_⟩
      · have hfail : summaryOf settings parameters store = ⟨.error .missingScope, []⟩ := by
          rw [summaryOf_eq hwanted, Scope.resolve_of_not_isNamed hunnamed]
          rfl
        rw [hexchange, Exchange.of_eq_of_error hfail]
        rfl
      · rw [hexchange]
        rcases exchange_cases hwanted hnamed settings store with
          ⟨hnothing, hanswered, hresponse⟩ | ⟨hnothing, hanswered, hresponse⟩ |
            ⟨hnothing, hanswered, hresponse⟩
        · rw [hresponse]
          exact ⟨iff_of_true rfl hnothing, fun _ => rfl, iff_of_false nofun hanswered,
            fun hmissing => absurd rfl hmissing⟩
        · rw [hresponse]
          exact ⟨iff_of_false nofun hnothing, nofun, iff_of_true rfl hanswered,
            fun _ hok => absurd rfl hok⟩
        · rw [hresponse]
          exact ⟨iff_of_false nofun hnothing, nofun, iff_of_false nofun hanswered, fun _ _ => rfl⟩

/-- The forum is looked up although a course is named, too, and it is missing. -/
theorem answer_summary_missing :
    answer ⟨.ofNumbers 25 500, 10000⟩ .empty
      ⟨"GET", "/forum/report/summary?courseid=9&groups=1,2&forumid=4", none, ""⟩ =
        ⟨.plain .notFound (ReportError.forumNotFound 4).message, [.forum 4]⟩ := by
  have hread : SummaryParameters.ofPairs (formPairs
      (Target.ofText "/forum/report/summary?courseid=9&groups=1,2&forumid=4").query) =
        .ok { courseId := some 9, forumId := some 4, groups := some "1,2" } := by
    rfl
  obtain ⟨-, hreads⟩ := answer_summary ⟨.ofNumbers 25 500, 10000⟩ .empty
    ⟨"GET", "/forum/report/summary?courseid=9&groups=1,2&forumid=4", none, ""⟩ _ rfl (by rfl) hread
  obtain ⟨wanted, format, -, hcourse, hforum, -, hnamed⟩ := hreads rfl
  rw [hcourse, hforum] at hnamed
  obtain ⟨hmissing, hexchange, -⟩ := hnamed (.inl (by decide))
  exact hexchange (hmissing.2 ⟨rfl, rfl⟩)

end ForumSummary.Http
