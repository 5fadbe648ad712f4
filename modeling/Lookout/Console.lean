import Lookout.CommandLine.Invocation
import Lookout.Invite
import Lookout.Journal
import Lookout.Journal.Severity
import Lookout.Migration

/-!
# Console

What the commands of the program do and print. Drift has a status of its own, so that
whoever started the program can tell it from other failures.
-/

namespace Lookout.Console

open CommandLine (Command Invocation)
open Operation

/-- The status that the program ends with and the lines that it prints. -/
structure Report where
  status : Nat := 0
  lines : List String := []
  deriving DecidableEq, Repr

/-- The status of a program that met drift. -/
def driftStatus : Nat := 2

/-- A stored log line as it is printed. -/
def journalText (entry : Store.Entry JournalLine) : String :=
  s!"{entry.id} {entry.row.time.text} [{Text.plain? entry.row.level}] " ++
    s!"{Text.plain? entry.row.target}: {entry.row.message}"

/-- Carry out a command. -/
def carryOut : Command → Operation Report
  | .migrate => do
      let version ← Migration.run (some "head")
      return { lines := [s!"Schema version: {Migration.shown version}"] }
  | .version => do
      match ← Migration.currentVersion with
      | some version => return { lines := [toString version] }
      | none => return { lines := ["No migrations applied"] }
  | .logs limit before => do
      return { lines := (← Journal.newest (some limit) before).map journalText }
  | .invites count => do
      return { lines := ← Invite.generate (some count) none }
  | .cleanupInvites => do
      let count ← Invite.cleanup none
      return { lines := [s!"Deleted {count} expired invites"] }

/-- Set up logging and carry out a command. -/
def run (invocation : Invocation) : Operation Report := do
  if let .error failure := Journal.chosenSeverity (← read).settings invocation.level then
    throw failure
  tryCatch (carryOut invocation.command) fun failure => do
    match failure with
    | .drift .. =>
        log .critical .console
          s!"Refusing to continue, schema drift detected: {failure.message}"
        return { status := driftStatus }
    | other => throw other

end Lookout.Console
