import ForumSummary.Proofs.CommandLine.Options
import ForumSummary.Proofs.CommandLine.Outputs
import ForumSummary.Proofs.Http.Outcomes
import ForumSummary.Proofs.Http.Words

/-!
# Exports are downloads

A report that is wanted as a file can be asked for in arguments of the program and in the target of
a request to the server. Both are read as the same request, but for the page, which a file does not
have (`run_arguments`, `answer_target`). So the program writes what the server answers, for the same
statements, and one fails when the other does (`run_iff_answer`).
-/

namespace ForumSummary

open CommandLine (ExportOptions Host Config Ending Invocation optionText)
open Http (SummaryParameters Exchange Response IsWord groupText queryText)

/-- A failure is never answered as a success. -/
theorem Http.Response.status_ofError_ne_ok (e : ReportError) : (ofError e).status ≠ .ok := by
  unfold ofError
  split
  · exact nofun
  · split
    · exact nofun
    · split <;> exact nofun

/-- A report that is wanted as a file: what it is about, and words for its order and its format,
which can be read. -/
structure WantedFile where
  courseId : Int64
  forumId : Int64
  groups : List Int64
  dateFrom : Option Int64
  dateTo : Option Int64
  sort : String
  direction : String
  format : String
  order : SortOrder
  fileFormat : Export.Format
  sort_reads : SortColumn.ofText sort = .ok order.column
  direction_reads : SortDirection.ofText direction = .ok order.direction
  format_reads : Export.Format.ofText format = .ok fileFormat

namespace WantedFile

variable (w : WantedFile)

/-- The request for the rows of the file. -/
def request : Report.Request where
  courseId := w.courseId
  forumId := w.forumId
  groups := w.groups
  dateFrom := w.dateFrom
  dateTo := w.dateTo
  order := w.order

/-! ## Arguments of the program -/

/-- The options that ask for the file. Each group has an option of its own. -/
def options : List (String × String) :=
  [("course", Numeral.text w.courseId.toInt), ("forum", Numeral.text w.forumId.toInt)] ++
    w.groups.map (fun id => ("group", Numeral.text id.toInt)) ++
    w.dateFrom.toList.map (fun moment => ("from", Numeral.text moment.toInt)) ++
    w.dateTo.toList.map (fun moment => ("to", Numeral.text moment.toInt)) ++
    [("sort", w.sort), ("dir", w.direction), ("format", w.format)]

/-- The arguments that ask for the file. -/
def arguments : List String :=
  "export" :: w.options.map optionText

/-- What the options are read as. -/
def exportOptions : ExportOptions where
  course := some w.courseId
  forum := some w.forumId
  groups := w.groups
  dateFrom := w.dateFrom
  dateTo := w.dateTo
  sort := some w.sort
  direction := some w.direction
  format := some w.format

theorem foldlM_options : w.options.foldlM ExportOptions.putPair {} = some w.exportOptions := by
  simp only [options, List.foldlM_append, ExportOptions.foldlM_groups]
  cases hfrom : w.dateFrom <;> cases hto : w.dateTo <;>
    simp [exportOptions, ExportOptions.putPair, ExportOptions.put, ExportOptions.fill,
      ExportOptions.integer?_text, hfrom, hto]

theorem ofArguments_arguments :
    Invocation.ofArguments w.arguments = some (.run (.exportReport w.exportOptions)) := by
  have hnames : ∀ option ∈ w.options, '=' ∉ option.1.toList := by
    simp only [options, List.forall_mem_append, List.forall_mem_map, List.forall_mem_cons]
    refine ⟨⟨⟨⟨⟨?_, ?_, nofun⟩, fun _ _ => ?_⟩, fun _ _ => ?_⟩, fun _ _ => ?_⟩, ?_, ?_, ?_, nofun⟩
    all_goals decide
  show Invocation.ofExportOptions {} (w.options.map optionText) = _
  rw [Invocation.ofExportOptions_map_optionText hnames, foldlM_options]
  rfl

theorem toRequest_exportOptions : w.exportOptions.toRequest = .ok (w.request, w.fileFormat) := by
  simp only [ExportOptions.toRequest, exportOptions, Option.getD_some, w.sort_reads,
    w.direction_reads, w.format_reads]
  rfl

/-! ## The target of a request -/

/-- The pairs that ask for the file. All groups are in one of them. -/
def pairs : List (String × String) :=
  [("courseid", Numeral.text w.courseId.toInt), ("forumid", Numeral.text w.forumId.toInt)] ++
    (if w.groups = [] then [] else [("groups", groupText w.groups)]) ++
    w.dateFrom.toList.map (fun moment => ("datefrom", Numeral.text moment.toInt)) ++
    w.dateTo.toList.map (fun moment => ("dateto", Numeral.text moment.toInt)) ++
    [("tsort", w.sort), ("tdir", w.direction), ("download", w.format)]

/-- The target that asks for the file. -/
def target : String :=
  String.ofList ("/forum/report/summary".toList ++ '?' :: queryText w.pairs)

/-- What the pairs are read as. -/
def parameters : SummaryParameters where
  courseId := some w.courseId
  forumId := some w.forumId
  sort := some w.sort
  direction := some w.direction
  groups := if w.groups = [] then none else some (groupText w.groups)
  dateFrom := w.dateFrom
  dateTo := w.dateTo
  download := some w.format

theorem isPlainPair_of_mem_pairs : ∀ pair ∈ w.pairs, Http.IsPlainPair pair := by
  have hword {name value : String} (hvalue : IsWord value) (hname : IsWord name) :
      Http.IsPlainPair (name, value) :=
    ⟨fun c hc => (hname.2 c hc).1, fun c hc => (hvalue.2 c hc).1⟩
  have hgroups : ∀ pair ∈ if w.groups = [] then [] else [("groups", groupText w.groups)],
      Http.IsPlainPair pair := by
    split
    · exact nofun
    · next hne => exact List.forall_mem_singleton.2 (hword (Http.isWord_groupText hne) (by decide))
  simp only [pairs, List.forall_mem_append, List.forall_mem_map, List.forall_mem_cons]
  refine ⟨⟨⟨⟨⟨?courseId, ?forumId, nofun⟩, hgroups⟩, ?dateFrom⟩, ?dateTo⟩,
    ?sort, ?direction, ?download, nofun⟩
  case courseId | forumId => exact hword (Http.isWord_text _) (by decide)
  case dateFrom | dateTo => exact fun _ _ => hword (Http.isWord_text _) (by decide)
  case sort => exact hword (Http.isWord_of_sortColumn w.sort_reads) (by decide)
  case direction => exact hword (Http.isWord_of_sortDirection w.direction_reads) (by decide)
  case download => exact hword (Http.isWord_of_format w.format_reads) (by decide)

theorem ofPairs_pairs : SummaryParameters.ofPairs w.pairs = .ok w.parameters := by
  unfold SummaryParameters.ofPairs pairs parameters
  -- Every pair has a name of its own, so it fills a place that is empty.
  split <;> cases w.dateFrom <;> cases w.dateTo <;>
    simp only [Option.toList, List.map, List.cons_append, List.nil_append, List.append_nil,
      List.foldlM_cons, List.foldlM_nil, SummaryParameters.put, Http.fill,
      Numeral.readInt64_text] <;>
    rfl

/-- The groups are read as they were wanted; without any nothing is read. -/
theorem readPresent_groups :
    SummaryParameters.readPresent w.parameters.groups Report.groupsOfText =
      .ok (if w.groups = [] then none else some w.groups) := by
  by_cases h : w.groups = []
  · simp only [parameters, if_pos h]
    rfl
  · simp only [SummaryParameters.readPresent, parameters, if_neg h,
      Http.present_of_isWord (Http.isWord_groupText h), Http.groupsOfText_groupText h]
    rfl

theorem toRequest_parameters :
    w.parameters.toRequest = .ok ({ w.request with page := 1 }, some w.fileFormat) := by
  have hsort :=
    SummaryParameters.readPresent_of_isWord (Http.isWord_of_sortColumn w.sort_reads) w.sort_reads
  have hdirection :=
    SummaryParameters.readPresent_of_isWord (Http.isWord_of_sortDirection w.direction_reads)
      w.direction_reads
  have hformat :=
    SummaryParameters.readPresent_of_isWord (Http.isWord_of_format w.format_reads) w.format_reads
  have hgroups : (if w.groups = [] then none else some w.groups).getD [] = w.groups := by
    split
    · next h => rw [h]; rfl
    · rfl
  unfold SummaryParameters.toRequest
  rw [readPresent_groups]
  simp only [parameters]
  rw [hsort, hdirection, hformat]
  show Except.ok (_, _) = _
  simp only [hgroups]
  rfl

/-! ## Sessions -/

variable {c : Config} {host : Host} {settings : Report.Settings} {store : Store}

/-- The program runs the session of the export. -/
theorem run_arguments (hconfig : Config.ofEnvironment host.environment = .ok c) :
    CommandLine.run host w.arguments =
      Ending.of (CommandLine.exportSession c w.request w.fileFormat
        (c.pooled (host.database c.databaseUrl))) .finished := by
  simp only [CommandLine.run, ofArguments_arguments, hconfig, CommandLine.runCommand,
    toRequest_exportOptions]

/-- The session of the download. -/
def download (settings : Report.Settings) : Session Response := do
  let rows ← Report.exportRows settings w.request
  return .download Report.summaryFileName w.fileFormat (.ofRows rows)

/-- The server runs the session of the download. -/
theorem answer_target (contentType : Option String) (body : String) :
    Http.answer settings store ⟨"GET", w.target, contentType, body⟩ =
      Exchange.of (w.download settings) store := by
  have htarget : Http.Target.ofText w.target =
      ⟨Text.split '/' "/forum/report/summary".toList, queryText w.pairs⟩ :=
    Http.Target.ofText_append w.isPlainPair_of_mem_pairs (by decide) (by decide)
  have hpath : Http.Route.ofPath? (Text.split '/' "/forum/report/summary".toList) =
      some .summary := by
    decide +kernel
  have hroute : Http.Route.ofPath? (Http.Target.ofText w.target).path = some .summary := by
    rw [htarget]
    exact hpath
  have hread : SummaryParameters.ofPairs (Http.formPairs (Http.Target.ofText w.target).query) =
      .ok w.parameters := by
    rw [htarget, Http.formPairs_queryText w.isPlainPair_of_mem_pairs, ofPairs_pairs]
  have hsession : Http.summaryOf settings w.parameters = w.download settings := by
    simp only [Http.summaryOf, toRequest_parameters]
    exact pure_bind _ _
  rw [← hsession]
  exact Http.answer_of_summary settings store rfl hroute hread

section
variable {sent : List Statement}

/-- The export and the download write out the rows that they read. -/
theorem sessions_of_rows {rows : List Row}
    (h : Report.exportRows c.settings w.request store = ⟨.ok rows, sent⟩) :
    CommandLine.exportSession c w.request w.fileFormat store =
        ⟨.ok ((Export.Dataset.ofRows rows).render w.fileFormat), sent⟩ ∧
      w.download c.settings store =
        ⟨.ok (.download Report.summaryFileName w.fileFormat (.ofRows rows)), sent⟩ := by
  refine ⟨CommandLine.exportSession_of_rows h, ?_⟩
  rw [download, Session.bind_of_ok h]
  simp

/-- The export and the download stop at the same statement. -/
theorem sessions_of_error {e : ReportError}
    (h : Report.exportRows c.settings w.request store = ⟨.error e, sent⟩) :
    (∃ e', CommandLine.exportSession c w.request w.fileFormat store = ⟨.error e', sent⟩) ∧
      w.download c.settings store = ⟨.error e, sent⟩ := by
  refine ⟨?_, Session.bind_of_error h⟩
  cases hopen : store.refusal with
  | none =>
    refine ⟨e, ?_⟩
    rw [CommandLine.exportSession, Session.bind_of_ok (Session.connect_of_open _ hopen),
      Session.bind_of_error h]
    rfl
  | some text =>
    obtain ⟨e', he'⟩ := Report.exportRows_of_refused c.settings w.request hopen
    obtain rfl : sent = [] := congrArg Run.sent (h.symm.trans he')
    exact ⟨_, Session.bind_of_error (Session.connect_of_refused _ hopen)⟩

end

/-- The sessions of the export and of the download have the same result and send the same
statements. -/
theorem exportSession_agrees :
    let ending := Ending.of (CommandLine.exportSession c w.request w.fileFormat store) .finished
    let exchange := Exchange.of (w.download c.settings) store
    (∀ text, ending.outcome.exitCode = 0 ∧ ending.outcome.output = text ↔
      exchange.response.status = .ok ∧ exchange.response.body = text) ∧
    ending.sent = exchange.sent := by
  intro ending exchange
  cases hrows : Report.exportRows c.settings w.request store with
  | mk result sent =>
    cases result with
    | ok rows =>
      obtain ⟨hexport, hdownload⟩ := w.sessions_of_rows hrows
      simp only [ending, exchange, Ending.of, Exchange.of, hexport, hdownload]
      exact ⟨fun text => and_congr_left' ⟨fun _ => rfl, fun _ => rfl⟩, trivial⟩
    | error e =>
      obtain ⟨⟨e', hexport⟩, hdownload⟩ := w.sessions_of_error hrows
      simp only [ending, exchange, Ending.of, Exchange.of, hexport, hdownload]
      refine ⟨fun text => iff_of_false ?_ ?_, trivial⟩
      · exact fun h => absurd h.1 (by decide : (1 : UInt8) ≠ 0)
      · exact fun h => Response.status_ofError_ne_ok e h.1

/-- The program writes a file when and only when the server answers with it, and both send the same
statements. -/
theorem run_iff_answer (host : Host) (c : Config)
    (hconfig : Config.ofEnvironment host.environment = .ok c) (contentType : Option String)
    (body : String) :
    let ending := CommandLine.run host w.arguments
    let exchange := Http.answer c.settings (c.pooled (host.database c.databaseUrl))
      ⟨"GET", w.target, contentType, body⟩
    (∀ text, ending.outcome.exitCode = 0 ∧ ending.outcome.output = text ↔
      exchange.response.status = .ok ∧ exchange.response.body = text) ∧
    ending.sent = exchange.sent := by
  intro ending exchange
  have hending : ending = _ := w.run_arguments hconfig
  have hexchange : exchange = _ := w.answer_target contentType body
  rw [hending, hexchange]
  exact w.exportSession_agrees

/-- The members of two groups by last name, downwards, as JSON. -/
def sample : WantedFile where
  courseId := 0
  forumId := 4
  groups := [3, -5]
  dateFrom := some 100
  dateTo := none
  sort := "lastname"
  direction := "DESC"
  format := "Json"
  order := ⟨.lastname, .desc⟩
  fileFormat := .json
  sort_reads := rfl
  direction_reads := rfl
  format_reads := rfl

/-- The arguments and the target for the sample, and what comes of them where the environment has
nothing but the address of a database. -/
theorem run_iff_answer_sample :
    let host : Host := {
      environment := fun name => if name = "DATABASE_URL" then some "db" else none
      database := fun _ => .sample
      isTaken := fun _ => false }
    let ending := CommandLine.run host ["export", "--course=0", "--forum=4", "--group=3",
      "--group=-5", "--from=100", "--sort=lastname", "--dir=DESC", "--format=Json"]
    let c : Config := ⟨3000, "db", 10, 25, 500, 10, ["*"]⟩
    let exchange := Http.answer c.settings (c.pooled (host.database c.databaseUrl)) ⟨"GET",
      "/forum/report/summary?courseid=0&forumid=4&groups=3,-5&datefrom=100&tsort=lastname" ++
        "&tdir=DESC&download=Json", none, ""⟩
    ending.outcome.exitCode = 0 ∧ exchange.response.status = .ok ∧
      exchange.response.body = ending.outcome.output ∧ ending.sent = exchange.sent := by
  intro host ending c exchange
  have hconfig : Config.ofEnvironment host.environment = .ok c := rfl
  have hending : ending = CommandLine.run host sample.arguments :=
    congrArg (CommandLine.run host) (by decide +kernel)
  have hexchange : exchange = Http.answer c.settings (c.pooled (host.database c.databaseUrl))
      ⟨"GET", sample.target, none, ""⟩ :=
    congrArg (fun target => Http.answer _ _ ⟨"GET", target, none, ""⟩) (by decide +kernel)
  have hexit : (CommandLine.run host sample.arguments).outcome.exitCode = 0 := by
    rw [sample.run_arguments hconfig]
    rfl
  obtain ⟨hagree, hsent⟩ := sample.run_iff_answer host c hconfig none ""
  obtain ⟨hstatus, hbody⟩ := (hagree _).1 ⟨hexit, rfl⟩
  rw [hending, hexchange]
  exact ⟨hexit, hstatus, hbody, hsent⟩

end WantedFile

end ForumSummary
