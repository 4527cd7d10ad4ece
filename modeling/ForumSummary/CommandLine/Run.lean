import ForumSummary.CommandLine.Arguments
import ForumSummary.CommandLine.Config
import ForumSummary.Report.Download
import ForumSummary.Store.Schema

/-!
# Running the program

A run reads the arguments, then the configuration, then what the command needs of its options, and
only then connects to the database. Output is written when all of it is there: a run that fails
writes nothing.
-/

namespace ForumSummary.CommandLine

/-- What a run meets outside: its environment, the database at each address, the TCP numbers that
are taken, and the migrator of the library that speaks to the database. -/
structure Host where
  environment : Environment
  database : String → Store
  isTaken : UInt16 → Bool
  migrator : Session.Migrator := Session.applyAll

/-- Why a command failed. -/
inductive Failure where
  | configuration (e : ConfigError)
  | report (e : ReportError)
  | addressTaken

/-- The wording of a failure. -/
def Failure.message : Failure → String
  | .configuration _ => "failed to load configuration"
  | .report e => e.message
  | .addressTaken => "failed to bind to address"

/-- How a run ends. -/
inductive Outcome where
  /-- A mistake in usage. -/
  | misused
  /-- The usage is told. -/
  | helped
  /-- The program waits for requests. -/
  | serving
  | finished (output : String)
  | failed (why : Failure)

namespace Outcome

/-- The exit code. A program that serves has none of its own. -/
def exitCode : Outcome → UInt8
  | .misused => 2
  | .failed _ => 1
  | _ => 0

/-- What is written to the standard output, usage apart. -/
def output : Outcome → String
  | .finished output => output
  | _ => ""

/-- What a failed run writes to the standard error. -/
def errorText : Outcome → Option String
  | .failed why => some ("Error: " ++ why.message)
  | _ => none

end Outcome

/-- The name and the version of the program. -/
def versionLine : String := "forumreport 0.1.0\n"

/-- How the program is called. -/
def usage : String :=
  "Forum summary report service\n\n" ++
  "Usage: forumreport [COMMAND]\n\n" ++
  "Commands:\n" ++
  "  serve    Run the HTTP server (default)\n" ++
  "  migrate  Apply database migrations and exit\n" ++
  "  export   Write the full summary report to stdout\n\n" ++
  "Options of export:\n" ++
  "  --course <ID>, --forum <ID>, --group <ID>..., --from <SECONDS>, --to <SECONDS>,\n" ++
  "  --sort <COLUMN>, --dir <DIRECTION>, --format <FORMAT>\n"

/-- How a run ends, and the statements that were sent. -/
structure Ending where
  outcome : Outcome
  sent : List Statement

/-- The ending of a session. -/
def Ending.of {α : Type} (run : Run α) (outcome : α → Outcome) : Ending :=
  match run.result with
  | .ok a => ⟨outcome a, run.sent⟩
  | .error e => ⟨.failed (.report e), run.sent⟩

/-- The session of an export: its output. -/
def exportSession (c : Config) (request : Report.Request) (format : Export.Format) :
    Session String := do
  Session.connect .start
  let rows ← Report.exportRows c.settings request
  return (Export.Dataset.ofRows rows).render format

/-- Runs a command under a configuration. -/
def runCommand (host : Host) (c : Config) : Command → Ending
  | .serve =>
    Ending.of (Session.connect .start (c.pooled (host.database c.databaseUrl))) fun _ =>
      if host.isTaken c.listenOn then .failed .addressTaken else .serving
  | .migrate =>
    Ending.of (Session.defineSchema host.migrator (c.pooled (host.database c.databaseUrl)))
      fun _ => .finished ""
  | .exportReport o =>
    match o.toRequest with
    | .error e => ⟨.failed (.report e), []⟩
    | .ok (request, format) =>
      Ending.of (exportSession c request format (c.pooled (host.database c.databaseUrl))) .finished

/-- Runs the program with its arguments. -/
def run (host : Host) (arguments : List String) : Ending :=
  match Invocation.ofArguments arguments with
  | none => ⟨.misused, []⟩
  | some .help => ⟨.helped, []⟩
  | some .version => ⟨.finished versionLine, []⟩
  | some (.run command) =>
    match Config.ofEnvironment host.environment with
    | .error e => ⟨.failed (.configuration e), []⟩
    | .ok c => runCommand host c command

end ForumSummary.CommandLine
