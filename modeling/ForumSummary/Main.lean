import ForumSummary.CommandLine.Run

/-!
# The program

Reads the arguments and the environment, runs the command, and writes what it ends with. No database
is reached from here, so every address refuses a connection.
-/

namespace ForumSummary.CommandLine

/-- The variables that are looked at, as they are set. -/
def readEnvironment : IO Environment := do
  let pairs ← variableNames.mapM fun name => do return (name, ← IO.getEnv name)
  return fun name => (pairs.lookup name).join

/-- The outside of a program without a way to a database. -/
def isolated (environment : Environment) : Host where
  environment
  database _ := ⟨some "no database is reached from here", fun _ => .rows []⟩
  isTaken _ := false

/-- Writes what a run ends with, and gives the exit code. -/
def finish (outcome : Outcome) : IO UInt32 := do
  match outcome with
  | .helped => IO.print usage
  | .misused => IO.eprint usage
  | outcome => IO.print outcome.output
  if let some text := outcome.errorText then
    IO.eprintln text
  return outcome.exitCode.toUInt32

end ForumSummary.CommandLine

open ForumSummary.CommandLine in
/-- Runs the program. -/
def main (arguments : List String) : IO UInt32 := do
  finish (run (isolated (← readEnvironment)) arguments).outcome
