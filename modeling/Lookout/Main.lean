import Lookout.Console
import Std.Time.DateTime.Timestamp

/-!
# The program

Runs one command on a store that lives as long as the command, prints what it answers,
and ends with its status. Log lines go to the error output.
-/

namespace Lookout

open CommandLine (Invocation)

/-- The variables that the program reads. -/
def variableNames : List String :=
  ["LOG_LEVEL", "THREADWATCH_MAX_DELIVERY_ATTEMPTS", "THREADWATCH_USER_ID_HASH_ITERATIONS",
    "THREADWATCH_LOG_BUFFER_SIZE", "THREADWATCH_MIGRATION_LOCK_KEY",
    "THREADWATCH_INVITE_LIFETIME_DAYS", "THREADWATCH_TRIAL_PERIOD_DAYS"]

/-- The variables of this process. -/
def readEnvironment : IO Environment := do
  let values ← variableNames.mapM fun name => do
    return (name, ← IO.getEnv name)
  return fun name => (values.lookup name).join

/-- Print what an invocation answers; the result is the status. -/
def runInvocation (invocation : Invocation) : IO UInt32 := do
  let nanoseconds := (← Std.Time.Timestamp.now).toNanosecondsSinceUnixEpoch.val
  let clock : Time.WallTime :=
    ⟨Time.WallTime.epoch.micros + (nanoseconds / 1000).toNat⟩
  let context : Context := { clock, settings := .ofEnvironment (← readEnvironment) }
  let outcome := (Console.run invocation).perform context {} (.ofSeed nanoseconds)
  for line in outcome.log do
    IO.eprintln s!"[{line.level.name}] {line.source.name}: {line.text}"
  match outcome.answer with
  | .ok report =>
      for line in report.lines do
        IO.println line
      return UInt32.ofNat report.status
  | .error failure =>
      IO.eprintln failure.message
      return 1

end Lookout

/-- Run the program on its arguments. -/
def main (arguments : List String) : IO UInt32 := do
  match Lookout.CommandLine.Invocation.ofArguments arguments with
  | .ok invocation => Lookout.runInvocation invocation
  | .error usage =>
      if let some text := usage.message? then IO.eprintln text
      return UInt32.ofNat usage.status
