import Lookout.Ledger
import Lookout.Schema.Target

/-!
# Migrations

Moving the schema of a database from revision to revision. A change of tables or indexes
takes hold at once unless rows have been changed before it; everything after the first
change of a row is kept only if all of it succeeds.
-/

namespace Lookout.Migration

open Operation Store
open Schema (Change Column Direction Revision TableName)

/-- Whether two rows are alike in the columns of an index. -/
def hasDuplicate {α : Type} [Relation α] (columns : List Column) : List (Entry α) → Bool
  | [] => false
  | entry :: rest =>
      (rest.any fun other => Relation.alike columns entry.row other.row) ||
        hasDuplicate columns rest

/-- Whether the rows of a table forbid a unique index. -/
def forbids (database : Database) (table : TableName) (columns : List Column) : Bool :=
  match table with
  | .position => false
  | .ledger => hasDuplicate columns database.ledger.entries
  | .journal => hasDuplicate columns database.journal.entries
  | .accounts => hasDuplicate columns database.accounts.entries
  | .tokens => hasDuplicate columns database.tokens.entries
  | .invites => hasDuplicate columns database.invites.entries
  | .threads => hasDuplicate columns database.threads.entries
  | .descriptors => hasDuplicate columns database.descriptors.entries
  | .posts => hasDuplicate columns database.posts.entries
  | .replies => hasDuplicate columns database.replies.entries
  | .watches => hasDuplicate columns database.watches.entries

/-- A database after a schema change. A dropped table takes its rows along, and a unique
index needs rows that are unlike. -/
def altered (database : Database) (step : Change) : Except StoreError Database :=
  match database.catalog.apply step with
  | .error error => .error (.change error)
  | .ok catalog =>
      match step with
      | .createTable _ | .dropIndex _ => .ok { database with catalog }
      | .dropTable table => .ok { database.erase table (fun _ => true) with catalog }
      | .createIndex index =>
          if index.unique && forbids database index.table index.columns then
            .error (.duplicate index.table index.columns)
          else .ok { database with catalog }

/-- Change the schema: at once, or together with the rows that have been changed. -/
def alter (step : Change) : Operation Unit := do
  match altered (← database) step with
  | .error error => refuse error
  | .ok altered =>
      modify fun session =>
        { session with
          current := altered
          saved := if session.isOpen then session.saved else altered }

/-- Make schema changes one after the other. -/
def alterAll : List Change → Operation Unit
  | [] => return
  | step :: rest => do
      alter step
      alterAll rest

/-- Write down the position of the schema. -/
def moveTo (position : Option Revision) : Operation Unit :=
  change fun database => { database with position }

/-- Apply a revision and record it, or revert it and remove it from the ledger. -/
def take (direction : Direction) (revision : Revision) : Operation Unit :=
  match direction with
  | .upgrade => do
      alterAll revision.upgrade
      moveTo (some revision)
      let _ ← Ledger.apply (some revision.number) (some revision.label) (some revision.checksum)
  | .downgrade => do
      alterAll revision.downgrade
      moveTo revision.previous?
      if ← Ledger.isPresent then Ledger.forget (some revision.number)

/-- Take revisions one after the other. -/
def takeAll (direction : Direction) : List Revision → Operation Unit
  | [] => return
  | revision :: rest => do
      take direction revision
      takeAll direction rest

/-- A target has to be given, and a store has a position of its own, so the target cannot
be a range. -/
def single (target : Option String) : Operation String :=
  match target with
  | none => throw (.target .missing)
  | some text =>
      if text.toList.contains ':' then throw (.target .rangeRefused) else return text

/-- Lead the schema from its position to a target, without a commit. The table that keeps
the position comes first. -/
def lead (direction : Direction) (target : String) : Operation Unit := do
  let database ← database
  if database.position.isNone && !database.catalog.hasTable .position then
    alter (.createTable .position)
  match Schema.route direction database.position target with
  | .ok steps => takeAll direction steps
  | .error error => throw (.target error)

/-- What the ledger is expected to hold: the checksum of each revision. -/
def expected (version : Int) : Option (Option String) :=
  (Revision.checksumOf? version).map some

/-- A version in a log line; a missing one shows as `None`. -/
def shown : Option Int → String := Failure.shown

/-- Upgrade the schema to a target, after a check for drift. The answer is the largest
recorded version. -/
def run (target : Option String) : Operation (Option Int) := do
  log .info .migrations "run_migrations: Starting..."
  let version ← tryCatch (do
      let applied ← Ledger.recorded
      log .info .migrations <|
        s!"Found {Revision.all.length} migrations in total, and {applied.length} " ++
          "already applied migrations"
      Ledger.verify expected
      lead .upgrade (← single target)
      let version ← Ledger.currentVersion
      commit
      return version)
    fun failure => do
      log .error .migrations s!"run_migrations: Error occurred: {failure.message}"
      throw failure
  log .info .migrations
    s!"run_migrations: Completed successfully, schema version {shown version}"
  return version

/-- Downgrade the schema to a target. The answer is the largest recorded version. -/
def downgrade (target : Option String) : Operation (Option Int) := do
  lead .downgrade (← single target)
  let version ← Ledger.currentVersion
  commit
  return version

/-- Lead the schema to a target either way, after a check for drift. -/
def guarded (direction : Direction) (target : Option String) : Operation Unit := do
  let target ← single target
  Ledger.verify expected
  lead direction target
  commit

/-- The largest recorded version. -/
def currentVersion : Operation (Option Int) := Ledger.currentVersion

/-- Create the tables that are missing, as they are at the newest revision. The schema
gets no position by that. -/
def createMissing : Operation Unit := do
  let catalog := (← database).catalog
  let newest := Revision.head.catalog
  let missing := newest.tables.filter fun table => !catalog.hasTable table
  alterAll <| missing.flatMap fun table =>
    .createTable table :: (newest.indexesOf table).map .createIndex

/-- The statement that takes the lock for schema changes, with the name and value of its
parameter, where a dialect has such a lock. -/
def lockStatement (dialect : Option String) (settings : Settings) : Option (String × String × Int) :=
  if dialect = some Schema.Dialect.postgresql.name then
    some ("SELECT pg_advisory_xact_lock(:key)", "key", settings.migrationLock)
  else none

end Lookout.Migration
