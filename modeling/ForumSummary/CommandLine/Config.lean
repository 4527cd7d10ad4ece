import ForumSummary.Report.Request
import ForumSummary.Store.Session
import ForumSummary.Text.Blank
import ForumSummary.Text.Split

/-!
# Configuration

The program is configured by variables of its environment. A variable that is set must read; one
that is not set has a default, except the address of the database. The first fault, in the order of
the fields, decides.
-/

namespace ForumSummary.CommandLine

/-- The variables that are set. -/
abbrev Environment := String → Option String

/-- The names of the variables that are looked at. -/
def variableNames : List String :=
  ["PORT", "DATABASE_URL", "DATABASE_MAX_CONNECTIONS", "REPORT_DEFAULT_PER_PAGE",
    "REPORT_MAX_PER_PAGE", "REPORT_STATEMENT_TIMEOUT_SECS", "CORS_ALLOWED_ORIGINS"]

/-- Why the environment is no configuration. -/
inductive ConfigError where
  | invalid (variableName : String) (bits : Nat)
  | missingDatabase
  deriving DecidableEq, Repr

/-- The wording of a fault. -/
def ConfigError.message : ConfigError → String
  | .invalid variableName bits => variableName ++ " must be a valid u" ++ Numeral.natText bits
  | .missingDatabase => "DATABASE_URL environment variable is required"

/-- The configuration of the program. -/
structure Config where
  /-- The TCP number on which requests are awaited. -/
  listenOn : UInt16
  databaseUrl : String
  maxConnections : UInt32
  defaultPerPage : UInt32
  maxPerPage : UInt32
  timeoutSeconds : UInt64
  allowedOrigins : List String
  deriving DecidableEq, Repr

namespace Config

/-- Reads a variable that has a default. -/
def number {α : Type} (env : Environment) (name : String) (bits : Nat)
    (read : List Char → Except Numeral.Error α) (default : α) : Except ConfigError α :=
  match env name with
  | none => .ok default
  | some text => (read text.toList).mapError fun _ => .invalid name bits

/-- The origins in a list between commas. -/
def originsOfText (text : String) : List String :=
  (Text.split ',' text.toList).map fun piece => String.ofList (Text.trim piece)

/-- The configuration that an environment gives. -/
def ofEnvironment (env : Environment) : Except ConfigError Config := do
  let listenOn ← number env "PORT" 16 Numeral.readUInt16 3000
  let databaseUrl ←
    match env "DATABASE_URL" with
    | some url => pure url
    | none => .error .missingDatabase
  let maxConnections ← number env "DATABASE_MAX_CONNECTIONS" 32 Numeral.readUInt32 10
  let defaultPerPage ← number env "REPORT_DEFAULT_PER_PAGE" 32 Numeral.readUInt32 defaultPageSize
  let maxPerPage ←
    number env "REPORT_MAX_PER_PAGE" 32 Numeral.readUInt32 Report.defaultMaxPageSize
  let timeoutSeconds ←
    number env "REPORT_STATEMENT_TIMEOUT_SECS" 64 Numeral.readUInt64 Report.defaultTimeoutSeconds
  let allowedOrigins := ((env "CORS_ALLOWED_ORIGINS").map originsOfText).getD ["*"]
  return { listenOn, databaseUrl, maxConnections, defaultPerPage, maxPerPage, timeoutSeconds,
           allowedOrigins }

/-- The time limit of a statement in milliseconds. -/
def timeout (c : Config) : Nat :=
  c.timeoutSeconds.toNat * 1000

/-- How reports are made under a configuration. -/
def settings (c : Config) : Report.Settings where
  limits := Report.Limits.ofNumbers c.defaultPerPage c.maxPerPage
  timeout := c.timeout

/-- A database behind the configured number of connections; with none of them there is no way to
it. -/
def pooled (c : Config) (store : Store) : Store :=
  if c.maxConnections = 0 then
    { store with refusal := some "the pool has no connections" }
  else store

end Config

end ForumSummary.CommandLine
