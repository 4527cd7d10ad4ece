import ForumSummary.CommandLine.Run
import ForumSummary.Proofs.CommandLine.Configuration
import ForumSummary.Proofs.Names
import ForumSummary.Proofs.Report.Delivery

/-!
# Output that is whole or not there

An export checks its configuration, its order and its format before it connects
(`ExportOptions.firstFault`). It writes once, when it has a delivery, and a run that fails has
written nothing, wherever it failed (`run_export`). A run for the schema writes nothing at all
(`run_migrate`).
-/

namespace ForumSummary.CommandLine

open Report (Delivery Scope)

/-! ## Checks before connecting -/

/-- The failure of a configuration that is not there. -/
def faultOf : Except ConfigError Config → Option Failure
  | .ok _ => none
  | .error e => some (.configuration e)

/-- The first check of an export that fails: of the configuration, the sort column, the sort
direction and the format, in this order. -/
def ExportOptions.firstFault (o : ExportOptions) (env : Environment) : Option Failure :=
  [faultOf (Config.ofEnvironment env),
    (refusal SortColumn.IsName .invalidSortColumn (o.sort.getD "fullname")).map .report,
    (refusal SortDirection.IsName .invalidSortDirection (o.direction.getD "asc")).map .report,
    (refusal Export.Format.IsName .invalidExportFormat (o.format.getD "csv")).map
      .report].findSome? id

/-- The first check fails when and only when the environment does not configure the program. -/
theorem ExportOptions.exists_configuration_fault_iff {o : ExportOptions} {env : Environment} :
    (∃ e, o.firstFault env = some (.configuration e)) ↔ ¬ Configures env := by
  rw [← Config.exists_ofEnvironment_iff]
  unfold firstFault
  cases Config.ofEnvironment env with
  | error e => exact iff_of_true ⟨e, rfl⟩ nofun
  | ok c =>
    refine iff_of_false ?_ (not_not_intro ⟨c, rfl⟩)
    rintro ⟨e, he⟩
    obtain ⟨fault, hmem, hfault⟩ := List.exists_of_findSome?_eq_some he
    simp only [List.mem_cons, List.not_mem_nil, or_false] at hmem
    obtain rfl | hreport := hmem
    · cases hfault
    · rcases hreport with rfl | rfl | rfl
      all_goals
        obtain ⟨_, -, hreport⟩ := Option.map_eq_some_iff.1 hfault
        cases hreport

section
variable {host : Host} {arguments : List String} {o : ExportOptions}
  (h : Invocation.ofArguments arguments = some (.run (.exportReport o)))
include h

/-- An export stops at the first check that fails, or there are a configuration, a request and a
format, and it runs its session. -/
theorem run_export_cases (host : Host) :
    (∃ why, o.firstFault host.environment = some why ∧ run host arguments = ⟨.failed why, []⟩) ∨
    o.firstFault host.environment = none ∧ ∃ c request format,
      Config.ofEnvironment host.environment = .ok c ∧ o.toRequest = .ok (request, format) ∧
      Export.Format.ofText (o.format.getD Export.Format.csv.name) = .ok format ∧
      run host arguments = Ending.of (exportSession c request format
        (c.pooled (host.database c.databaseUrl))) .finished := by
  unfold run ExportOptions.firstFault
  rw [h, SortColumn.reads_ofText.refusal_eq, SortDirection.reads_ofText.refusal_eq,
    Export.Format.reads_ofText.refusal_eq]
  cases Config.ofEnvironment host.environment with
  | error e => exact .inl ⟨_, rfl, rfl⟩
  | ok c =>
  simp only [runCommand, ExportOptions.toRequest, SortColumn.name, SortDirection.name,
    Export.Format.name]
  cases SortColumn.ofText (o.sort.getD "fullname") with
  | error e => exact .inl ⟨_, rfl, rfl⟩
  | ok column =>
  cases SortDirection.ofText (o.direction.getD "asc") with
  | error e => exact .inl ⟨_, rfl, rfl⟩
  | ok direction =>
  cases Export.Format.ofText (o.format.getD "csv") with
  | error e => exact .inl ⟨_, rfl, rfl⟩
  | ok format => exact .inr ⟨rfl, c, _, format, rfl, rfl, rfl, rfl⟩

end

/-! ## The ending of an export -/

/-- A run that does not exit with 0 has written nothing. -/
theorem Outcome.output_of_exitCode_ne_zero {outcome : Outcome} (h : outcome.exitCode ≠ 0) :
    outcome.output = "" := by
  cases outcome with
  | finished output => exact absurd rfl h
  | misused | helped | serving | failed => rfl

theorem Ending.sent_of {α : Type} {run : Run α} {outcome : α → Outcome} :
    (Ending.of run outcome).sent = run.sent := by
  unfold Ending.of
  cases run.result <;> rfl

theorem Ending.exitCode_of_eq_zero_iff {run : Run String} :
    (Ending.of run .finished).outcome.exitCode = 0 ↔ ∃ text, run.result = .ok text := by
  unfold Ending.of
  cases run.result with
  | ok text => exact iff_of_true rfl ⟨text, rfl⟩
  | error e =>
    refine iff_of_false (fun h : (1 : UInt8) = 0 => absurd h (by decide)) ?_
    rintro ⟨_, h⟩
    cases h

section
variable {c : Config} {request : Report.Request} {format : Export.Format} {store : Store}

/-- The session of an export writes out the rows that it reads. -/
theorem exportSession_of_rows {rows : List Row} {sent : List Statement}
    (h : Report.exportRows c.settings request store = ⟨.ok rows, sent⟩) :
    exportSession c request format store =
      ⟨.ok ((Export.Dataset.ofRows rows).render format), sent⟩ := by
  cases hopen : store.refusal with
  | none =>
    rw [exportSession, Session.bind_of_ok (Session.connect_of_open _ hopen), Session.bind_of_ok h]
    simp
  | some text =>
    obtain ⟨e, he⟩ := Report.exportRows_of_refused c.settings request hopen
    cases h.symm.trans he

theorem isOk_exportSession_iff :
    (∃ text, (exportSession c request format store).result = .ok text) ↔
      Nonempty (Delivery c.settings request store) := by
  constructor
  · rintro ⟨text, htext⟩
    obtain ⟨_, -, hrest⟩ := Session.bind_eq_ok_iff.1 htext
    obtain ⟨rows, hrows, -⟩ := Session.bind_eq_ok_iff.1 hrest
    obtain ⟨d, -⟩ := Report.exists_delivery hrows
    exact ⟨d⟩
  · rintro ⟨d⟩
    rw [exportSession_of_rows (Report.exportRows_of_delivery d)]
    exact ⟨_, rfl⟩

/-- The session of an export succeeds when and only when a connection opens, the ids name something,
and every statement that is sent is served. -/
theorem isOk_exportSession_iff_served :
    (∃ text, (exportSession c request format store).result = .ok text) ↔
      store.refusal = none ∧ Scope.IsNamed request.courseId request.forumId ∧
        ∀ s ∈ (exportSession c request format store).sent, store.Serves s := by
  have hserved (hnamed : Scope.IsNamed request.courseId request.forumId) :
      (exportSession c request format).SucceedsWhenServed :=
    (Session.SucceedsWhenServed.connect _).bind fun _ =>
      (Report.exportRows_succeedsWhenServed hnamed).bind fun _ => .pure _
  constructor
  · intro hok
    obtain ⟨d⟩ := isOk_exportSession_iff.1 hok
    exact ⟨d.connected, d.named, (hserved d.named store d.connected).1 hok⟩
  · rintro ⟨hopen, hnamed, hall⟩
    exact (hserved hnamed store hopen).2 hall

end

/-- What an export writes. A run that does not exit with 0 has written nothing. The first check that
fails is reported, and then nothing is asked of the database; it is the check of the configuration
when and only when the environment gives none. When the checks pass, a run that exits
with 0 has written all rows of the statement for rows, in their order and in the format that is
asked for: of each row the username, the first and the last name, and the two counts. It exits with
0 when and only when a connection opens, the ids name something, and every statement that it sends
is served, the look-ups, the rows and the commit alike. -/
theorem run_export (host : Host) (arguments : List String) (o : ExportOptions)
    (h : Invocation.ofArguments arguments = some (.run (.exportReport o))) :
    let ending := run host arguments
    (ending.outcome.exitCode ≠ 0 → ending.outcome.output = "") ∧
    (∀ why, o.firstFault host.environment = some why →
      ending = ⟨.failed why, []⟩ ∧ ending.outcome.errorText = some ("Error: " ++ why.message)) ∧
    ((∃ e, o.firstFault host.environment = some (.configuration e)) ↔
      ¬ Configures host.environment) ∧
    (o.firstFault host.environment = none → ∃ c request format,
      Config.ofEnvironment host.environment = .ok c ∧ o.toRequest = .ok (request, format) ∧
      Export.Format.ofText (o.format.getD Export.Format.csv.name) = .ok format ∧
      let store := c.pooled (host.database c.databaseUrl)
      (ending.outcome.exitCode = 0 ↔ Nonempty (Delivery c.settings request store)) ∧
      (∀ d : Delivery c.settings request store,
        let table : Export.Dataset := ⟨["username", "fullname", "postcount", "replycount"],
          d.rows.map fun r => [.string r.username,
            .string (Text.trimmed (r.firstname ++ " " ++ r.lastname)),
            .ofInt64 r.postCount, .ofInt64 r.replyCount]⟩
        ending = ⟨.finished (table.render format), d.script⟩) ∧
      (ending.outcome.exitCode = 0 ↔
        store.refusal = none ∧ Scope.IsNamed request.courseId request.forumId ∧
          ∀ s ∈ ending.sent, store.Serves s)) := by
  intro ending
  rcases run_export_cases h host with
    ⟨why, hwhy, hrun⟩ | ⟨hnone, c, request, format, hconfig, hrequest, hformat, hrun⟩
  · have hending : ending = ⟨.failed why, []⟩ := hrun
    refine ⟨Outcome.output_of_exitCode_ne_zero, fun why' hwhy' => ?_,
      ExportOptions.exists_configuration_fault_iff, fun hnone => ?_⟩
    · rw [hwhy] at hwhy'
      cases hwhy'
      exact ⟨hending, by rw [hending]; rfl⟩
    · rw [hwhy] at hnone
      cases hnone
  · have hending : ending = Ending.of (exportSession c request format
        (c.pooled (host.database c.databaseUrl))) .finished := hrun
    refine ⟨Outcome.output_of_exitCode_ne_zero, fun why hwhy => ?_,
      ExportOptions.exists_configuration_fault_iff, fun _ =>
        ⟨c, request, format, hconfig, hrequest, hformat, ?_, fun d => ?_, ?_⟩⟩
    · rw [hnone] at hwhy
      cases hwhy
    · rw [hending, Ending.exitCode_of_eq_zero_iff]
      exact isOk_exportSession_iff
    · rw [hending, exportSession_of_rows (Report.exportRows_of_delivery d)]
      rfl
    · have hsent : ending.sent =
          (exportSession c request format (c.pooled (host.database c.databaseUrl))).sent := by
        rw [hending]
        exact Ending.sent_of
      rw [hsent, hending, Ending.exitCode_of_eq_zero_iff]
      exact isOk_exportSession_iff_served

/-- The export of a forum, from a database that answers everything and from one that does not
commit. -/
theorem run_export_uncommitted :
    let environment : Environment := fun name => if name = "DATABASE_URL" then some "db" else none
    let host (store : Store) : Host :=
      { environment, database := fun _ => store, isTaken := fun _ => false }
    let arguments := ["export", "--forum", "4", "--format=json"]
    let table : Export.Dataset := ⟨["username", "fullname", "postcount", "replycount"],
      [[.string "ada", .string "Ada Byron", .ofInt64 2, .ofInt64 0]]⟩
    let uncommitted : Store := ⟨none, fun
      | .commit => .failure "the connection is lost"
      | s => Store.sample.reply s⟩
    (run (host .sample) arguments).outcome.output = table.render .json ∧
      (run (host uncommitted) arguments).outcome.exitCode ≠ 0 ∧
      (run (host uncommitted) arguments).outcome.output = "" := by
  intro environment host arguments table uncommitted
  have haccepted : Invocation.ofArguments arguments =
      some (.run (.exportReport { forum := some 4, format := some "json" })) := by decide +kernel
  have hconfig (store : Store) : Config.ofEnvironment (host store).environment =
      .ok ⟨3000, "db", 10, 25, 500, 10, ["*"]⟩ := rfl
  have hpasses : ExportOptions.firstFault { forum := some 4, format := some "json" } environment =
      none := by
    unfold ExportOptions.firstFault
    rw [SortColumn.reads_ofText.refusal_eq, SortDirection.reads_ofText.refusal_eq,
      Export.Format.reads_ofText.refusal_eq]
    rfl
  constructor
  · obtain ⟨-, -, -, hpassed⟩ := run_export (host .sample) arguments _ haccepted
    obtain ⟨c, request, format, hc, hrequest, -, -, hdelivery, -⟩ := hpassed hpasses
    cases (hconfig .sample).symm.trans hc
    cases hrequest
    obtain ⟨d, hrows⟩ := Report.exists_delivery_sample
      (Config.settings ⟨3000, "db", 10, 25, 500, 10, ["*"]⟩)
    rw [hdelivery d, hrows]
    rfl
  · obtain ⟨hsilent, -, -, hpassed⟩ := run_export (host uncommitted) arguments _ haccepted
    obtain ⟨c, request, format, hc, -, -, hexit, -⟩ := hpassed hpasses
    cases (hconfig uncommitted).symm.trans hc
    have hfailed : (run (host uncommitted) arguments).outcome.exitCode ≠ 0 := by
      intro hzero
      obtain ⟨d⟩ := hexit.1 hzero
      obtain ⟨_, hreply⟩ := d.answered .commit (by simp [Statement.mem_transaction_singleton_iff])
      cases hreply
    exact ⟨hfailed, hsilent hfailed⟩

/-! ## Bringing up the schema -/

/-- What becomes of the schema is up to the migrator. The program connects, writes nothing, and
tells that the connection or the migrator failed, in its own words and not in theirs. -/
theorem run_migrate {host : Host} {arguments : List String} {c : Config}
    (h : Invocation.ofArguments arguments = some (.run .migrate))
    (hconfig : Config.ofEnvironment host.environment = .ok c) :
    let ending := run host arguments
    let store := c.pooled (host.database c.databaseUrl)
    let migration := host.migrator (Schema.tables ++ Schema.indices) store
    ending.outcome.output = "" ∧
    (store.refusal ≠ none → ending.sent = [] ∧
      ending.outcome.errorText = some "Error: failed to connect to PostgreSQL") ∧
    (store.refusal = none → ending.sent = migration.sent ∧
      (ending.outcome.exitCode = 0 ↔ ∃ done, migration.result = .ok done) ∧
      (ending.outcome.exitCode ≠ 0 →
        ending.outcome.errorText = some "Error: failed to run database migrations")) := by
  intro ending store migration
  have hending : ending =
      Ending.of (Session.defineSchema host.migrator store) fun _ => .finished "" := by
    show run host arguments = _
    unfold run
    rw [h]
    simp only [hconfig]
    rfl
  cases hopen : store.refusal with
  | some text =>
    rw [hending, Session.defineSchema,
      Session.bind_of_error (Session.connect_of_refused .connect hopen)]
    exact ⟨rfl, fun _ => ⟨rfl, rfl⟩, nofun⟩
  | none =>
    rw [hending, Session.defineSchema, Session.bind_of_ok (Session.connect_of_open .connect hopen),
      Session.toldAs]
    cases hmigration : host.migrator (Schema.tables ++ Schema.indices) store with
    | mk result sent =>
      have hrun : migration = ⟨result, sent⟩ := hmigration
      rw [hrun]
      cases result with
      | ok done => exact ⟨rfl, nofun, fun _ => ⟨rfl, iff_of_true rfl ⟨done, rfl⟩, nofun⟩⟩
      | error e => exact ⟨rfl, nofun, fun _ => ⟨rfl, iff_of_false nofun nofun, fun _ => rfl⟩⟩

end ForumSummary.CommandLine
