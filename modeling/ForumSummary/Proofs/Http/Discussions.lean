import ForumSummary.Proofs.Http.Outcomes
import ForumSummary.Proofs.Report.Discussions

/-!
# The download of a discussion

What a request for the discussion of a forum is answered with. The format is read before anything is
sent; a name of none is refused (`discussionFormat_eq_error_iff`). Otherwise the three look-ups are
made, and the response tells a missing record, a fault or the table apart
(`exportDiscussion_chain`).
-/

namespace ForumSummary.Http

/-- A text is there and names no format. -/
def IsUnknownFormat (text : Option String) : Prop :=
  ∃ s, text = some s ∧ s ≠ "" ∧ ¬ Export.Format.IsName s

/-- A format is not read when its text names none. -/
theorem discussionFormat_eq_error_iff {text : Option String} {e : ReportError} :
    discussionFormat text = .error e ↔
      IsUnknownFormat text ∧ ∃ s, text = some s ∧ e = .invalidExportFormat s := by
  by_cases hpresent : ∃ s, text = some s ∧ s ≠ ""
  · obtain ⟨s, rfl, hs⟩ := hpresent
    have hread : discussionFormat (some s) = Export.Format.ofText s := by
      rw [discussionFormat, Option.filter_some, if_pos (decide_eq_true hs)]
    rw [hread, Export.Format.reads_ofText.eq_error_iff]
    constructor
    · rintro ⟨hnone, rfl⟩
      exact ⟨⟨s, rfl, hs, hnone⟩, s, rfl, rfl⟩
    · rintro ⟨⟨s', hs', -, hnone⟩, s'', hs'', rfl⟩
      cases hs'
      cases hs''
      exact ⟨hnone, rfl⟩
  · have hread : discussionFormat text = .ok .csv := by
      have hfilter : text.filter (· ≠ "") = none :=
        Option.filter_eq_none_iff.2 fun s hs hne => hpresent ⟨s, hs, of_decide_eq_true hne⟩
      rw [discussionFormat, hfilter]
    rw [hread]
    refine iff_of_false nofun ?_
    rintro ⟨⟨s, hs, hne, -⟩, -⟩
    exact hpresent ⟨s, hs, hne⟩

/-- A request is for the discussion of a forum, with the text of a format if there is one. -/
structure AsksForDiscussion (request : Request) (id : Int64) (text : Option String) : Prop where
  get : request.method = "GET"
  route : ∃ segment, forumId segment = .ok id ∧
    Route.ofPath? (Target.ofText request.target).path = some (.discussion segment)
  format : formatOfPairs (formPairs (Target.ofText request.target).query) = .ok text

/-- The statements of an exchange are those of its session. -/
theorem Exchange.sent_of (session : Session Response) (store : Store) :
    (Exchange.of session store).sent = (session store).sent := by
  cases hresult : (session store).result <;> simp only [Exchange.of, hresult]

/-! ## The answer -/

section
variable {store : Store} {request : Request} {id : Int64} {text : Option String}
  (h : AsksForDiscussion request id text)
include h

theorem answer_of_discussion (settings : Report.Settings) (store : Store) :
    answer settings store request = Exchange.of (do
      let format ← Session.ofExcept (discussionFormat text)
      let dataset ← Report.exportDiscussion id
      return .download Report.discussionFileName format dataset) store := by
  obtain ⟨hget, ⟨segment, hid, hroute⟩, htext⟩ := h
  simp only [answer, hroute, hget, Route.isRead, readRoute, discussion, hid, htext, if_true]

/-- An unknown format is refused before anything is sent. -/
theorem answer_of_isUnknownFormat (settings : Report.Settings) (store : Store)
    (hunknown : IsUnknownFormat text) :
    ∃ message, answer settings store request = ⟨.plain .badRequest message, []⟩ := by
  obtain ⟨s, hs, hname⟩ := hunknown
  have herror : discussionFormat text = .error (.invalidExportFormat s) :=
    discussionFormat_eq_error_iff.2 ⟨⟨s, hs, hname⟩, s, hs, rfl⟩
  have hread : (Session.ofExcept (discussionFormat text) : Session Export.Format) store =
      ⟨.error (.invalidExportFormat s), []⟩ := by
    rw [herror]
    rfl
  refine ⟨"bad request: " ++ (ReportError.invalidExportFormat s).message, ?_⟩
  rw [answer_of_discussion h]
  exact Exchange.of_eq_of_error (Session.bind_of_error hread)

/-- With a format, all that is sent is sent for the table. -/
theorem answer_of_format (settings : Report.Settings) (store : Store) {format : Export.Format}
    (hformat : discussionFormat text = .ok format) :
    let exchange := answer settings store request
    let run := Report.exportDiscussion id store
    exchange.sent = run.sent ∧
      (∀ e, run.result = .error e → exchange.response = .ofError e) ∧
      ∀ dataset, run.result = .ok dataset →
        exchange.response = .download Report.discussionFileName format dataset := by
  intro exchange run
  have hread : Session.ofExcept (discussionFormat text) = pure format := by
    rw [hformat]
    rfl
  have hexchange : exchange = Exchange.of (Report.exportDiscussion id >>= fun dataset =>
      pure (.download Report.discussionFileName format dataset)) store := by
    rw [show exchange = _ from answer_of_discussion h settings store, hread, pure_bind]
  rw [hexchange]
  refine ⟨?_, fun e he => ?_, fun dataset hdataset => ?_⟩
  · rw [Exchange.sent_of, Session.bind_apply]
    show _ = (Report.exportDiscussion id store).sent
    rcases Report.exportDiscussion id store with ⟨_ | dataset, sent⟩
    · rfl
    · exact List.append_nil sent
  · exact Exchange.response_of_error (Session.bind_eq_error_iff.2 (.inl he))
  · exact Exchange.response_of_ok (Session.bind_eq_ok_iff.2 ⟨dataset, hdataset, rfl⟩)

end

/-- The discussion of a forum is downloaded in a chain of look-ups. What is sent is the look-up of
the forum, then that of the last discussion of the forum that was found, then that of the posts of
the discussion that was found, as far as records are found, each with the id as its one argument.
The forum is missing when and only when its look-up gives no row, and the discussion when its own
does; there is a fault when no connection opens or the answer to the last statement cannot be read.
In all other cases the table has one row for each post, in order. A request is answered accordingly,
and one with an unknown format is refused before anything is sent. -/
theorem exportDiscussion_chain (id : Int64) (store : Store) :
    let run := Report.exportDiscussion id store
    Report.DiscussionTrail store id run.sent ∧
    (∀ s ∈ run.sent, ∃ i, s ∈ [Statement.forum i, .latestDiscussion i, .posts i] ∧
      s.arguments = [.int8 (some i)]) ∧
    (∀ i, run.result = .error (.forumNotFound i) ↔ i = id ∧ store.FindsNothing (.forum id)) ∧
    (∀ i, run.result = .error (.discussionNotFound i) ↔
      ∃ f, store.Finds Forum.cells (.forum id) f ∧ i = f.id ∧
        store.FindsNothing (.latestDiscussion f.id)) ∧
    ((∃ fault, run.result = .error (.internal fault)) ↔
      store.refusal ≠ none ∨
        ∃ last, run.sent.getLast? = some last ∧ ¬ store.IsReadable last) ∧
    (∀ dataset, run.result = .ok dataset ↔ store.refusal = none ∧
      ∃ f d posts, store.Finds Forum.cells (.forum id) f ∧
        store.Finds Discussion.cells (.latestDiscussion f.id) d ∧
        store.ListsPosts d.id posts ∧
        dataset = ⟨["id", "subject", "message"],
          posts.map fun p => [.ofInt64 p.id, .string p.subject, .string p.message]⟩) ∧
    (∀ e, run.result = .error e →
      (∃ i, e = .forumNotFound i) ∨ (∃ i, e = .discussionNotFound i) ∨ e.IsFault) ∧
    ∀ (settings : Report.Settings) (request : Request) (text : Option String),
      AsksForDiscussion request id text →
      let exchange := answer settings store request
      (IsUnknownFormat text → exchange.response.status.code = 400 ∧ exchange.sent = []) ∧
      (¬ IsUnknownFormat text → exchange.sent = run.sent ∧
        (∀ i, run.result = .error (.forumNotFound i) ∨
          run.result = .error (.discussionNotFound i) → exchange.response.status.code = 404) ∧
        (∀ fault, run.result = .error (.internal fault) →
          exchange.response.status.code = 500) ∧
        ∀ dataset, run.result = .ok dataset →
          exchange.response.status.code = 200 ∧
            ∃ format, discussionFormat text = .ok format ∧
              exchange.response = .download Report.discussionFileName format dataset) := by
  intro run
  have hrun : Report.DiscussionRun store id run := Report.exportDiscussion_run id store
  refine ⟨hrun.trail, hrun.trail.arguments_eq, fun i => hrun.result_eq_forumNotFound_iff,
    fun i => hrun.result_eq_discussionNotFound_iff, hrun.isFault_iff,
    fun dataset => hrun.result_eq_ok_iff, fun e he => hrun.result_eq_error he,
    fun settings request text h => ⟨fun hunknown => ?_, fun hknown => ?_⟩⟩
  · obtain ⟨message, hanswer⟩ := answer_of_isUnknownFormat h settings store hunknown
    rw [hanswer]
    exact ⟨rfl, rfl⟩
  · cases hformat : discussionFormat text with
    | error e => exact absurd (discussionFormat_eq_error_iff.1 hformat).1 hknown
    | ok format =>
      obtain ⟨hsent, herror, hok⟩ := answer_of_format h settings store hformat
      refine ⟨hsent, fun i hi => ?_, fun fault hfault => ?_, fun dataset hdataset => ?_⟩
      · obtain hi | hi := hi
        · rw [herror _ hi]
          rfl
        · rw [herror _ hi]
          rfl
      · rw [herror _ hfault]
        rfl
      · rw [hok dataset hdataset]
        exact ⟨rfl, format, rfl, rfl⟩

/-- A store that answers for any forum with forum 5, which has one discussion of one post. -/
def storeOfForumFive : Store where
  refusal := none
  reply
    | .forum _ => .rows [[.integer 5, .integer 9, .text "News"]]
    | .latestDiscussion forumId =>
      if forumId = 5 then .rows [[.integer 8, .integer 5, .integer 7, .text "Fresh", .integer 100]]
      else .rows []
    | .posts discussionId =>
      if discussionId = 8 then
        .rows [[.integer 11, .integer 8, .null, .integer 7, .text "Fresh", .text "Hello",
          .integer 100]]
      else .rows []
    | _ => .rows []

/-- Forum 4 is asked for and forum 5 is found, so the discussion is that of forum 5. -/
theorem exportDiscussion_chain_found :
    let exchange (target : String) :=
      answer ⟨.ofNumbers 25 500, 10000⟩ storeOfForumFive ⟨"GET", target, none, ""⟩
    (exchange "/forum/4/export?format=CSV").response =
      .download "discussion" .csv
        ⟨["id", "subject", "message"], [[.ofInt64 11, .string "Fresh", .string "Hello"]]⟩ ∧
    (exchange "/forum/4/export?format=CSV").sent = [.forum 4, .latestDiscussion 5, .posts 8] ∧
    (exchange "/forum/4/export?format=xml").response.status.code = 400 := by
  intro exchange
  have hasksCsv : AsksForDiscussion ⟨"GET", "/forum/4/export?format=CSV", none, ""⟩ 4
      (some "CSV") :=
    ⟨rfl, ⟨"4", by rfl, by rfl⟩, by rfl⟩
  have hasksXml : AsksForDiscussion ⟨"GET", "/forum/4/export?format=xml", none, ""⟩ 4
      (some "xml") :=
    ⟨rfl, ⟨"4", by rfl, by rfl⟩, by rfl⟩
  have hforum : storeOfForumFive.Finds Forum.cells (.forum 4) ⟨5, 9, "News"⟩ :=
    ⟨_, _, rfl, List.prefix_refl _⟩
  have hdiscussion : storeOfForumFive.Finds Discussion.cells (.latestDiscussion 5)
      ⟨8, 5, 7, "Fresh", 100⟩ :=
    ⟨_, _, rfl, List.prefix_refl _⟩
  have hposts : storeOfForumFive.ListsPosts 8 [⟨11, 8, none, 7, "Fresh", "Hello", 100⟩] :=
    ⟨_, rfl, .cons (List.prefix_refl _) .nil⟩
  obtain ⟨-, -, -, -, -, hok, -, hanswer⟩ := exportDiscussion_chain 4 storeOfForumFive
  have hdataset := (hok _).2 ⟨rfl, _, _, _, hforum, hdiscussion, hposts, rfl⟩
  have hcsv : ¬ IsUnknownFormat (some "CSV") := by
    rintro ⟨s, hs, -, hnone⟩
    cases hs
    exact hnone (by decide +kernel)
  have hxml : IsUnknownFormat (some "xml") := ⟨"xml", rfl, by decide, by decide +kernel⟩
  obtain ⟨-, hknown⟩ := hanswer ⟨.ofNumbers 25 500, 10000⟩ _ _ hasksCsv
  obtain ⟨hsent, -, -, htable⟩ := hknown hcsv
  obtain ⟨-, format, hformat, hresponse⟩ := htable _ hdataset
  obtain ⟨hunknown, -⟩ := hanswer ⟨.ofNumbers 25 500, 10000⟩ _ _ hasksXml
  cases hformat
  exact ⟨hresponse, hsent, (hunknown hxml).1⟩

end ForumSummary.Http
