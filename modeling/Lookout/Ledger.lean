import Lookout.Session

/-!
# Ledger

The ledger lists the revisions that were applied, each under its version with the
checksum it had then. A version is recorded once; finding it with another checksum is
drift, and drift stops every schema change.
-/

namespace Lookout.Ledger

open Operation Store
open Text (plain?)

/-- Whether the ledger exists. -/
def isPresent : Operation Bool := do
  return (← database).catalog.hasTable .ledger

/-- The recorded versions in ascending order; none if there is no ledger. -/
def recorded : Operation (List (Entry LedgerLine)) := do
  return (← rows LedgerLine).entries

/-- The largest recorded version. -/
def currentVersion : Operation (Option Int) := do
  return (← rows LedgerLine).lastId?

/-- Record a version as applied, the next one if none is given. The answer says whether it
is new; a version that is recorded with another checksum is drift. -/
def apply (version : Option Int) (name checksum : Option String) : Operation Bool := do
  require [.ledger]
  fits [version]
  let table ← rows LedgerLine
  match version.bind table.get? with
  | some line =>
      if line.row.checksum = checksum then
        log .info .ledger s!"Skipping migration {line.id} because it's already applied"
        return false
      else throw (.drift line.id line.row.checksum checksum)
  | none =>
      put (table.put (version.getD table.nextId) { name, appliedOn := ← stamp, checksum })
      log .info .ledger s!"Recorded migration {Failure.shown version} ({plain? name})"
      return true

/-- Compare one recorded version with what is expected of it. -/
def verifyLine (expected : Int → Option (Option String)) (line : Entry LedgerLine) :
    Operation Unit :=
  match expected line.id with
  | none =>
      log .warning .ledger <|
        s!"Migration {line.id} ({plain? line.row.name}) is recorded " ++
          "but has no revision script"
  | some checksum => do
      let isSame := line.row.checksum = checksum
      log .debug .ledger <|
        s!"Migration {line.id}, checksum_from_db: {plain? line.row.checksum}, " ++
          s!"checksum_calculated: {plain? checksum}, " ++
          "migrations_match: " ++ if isSame then "True" else "False"
      if !isSame then throw (.drift line.id line.row.checksum checksum)

/-- Compare lines with what is expected of them, one after the other. -/
def verifyLines (expected : Int → Option (Option String)) : List (Entry LedgerLine) → Operation Unit
  | [] => return
  | line :: rest => do
      verifyLine expected line
      verifyLines expected rest

/-- Compare the recorded versions with what is expected of them, the lowest first. The
first one with another checksum is drift; versions that nothing is expected of pass. -/
def verify (expected : Int → Option (Option String)) : Operation Unit := do
  verifyLines expected (← recorded)

/-- What is expected of versions that are written as texts; of two that are the same the
later one counts. -/
def expectation (given : List (String × Option String)) :
    Operation (Int → Option (Option String)) := do
  let pairs ← given.mapM fun (version, checksum) => do
    return (← wholeNumber (.text version), checksum)
  return fun version => pairs.reverse.lookup version

/-- Remove a version from the ledger. -/
def forget (version : Option Int) : Operation Unit := do
  require [.ledger]
  fits [version]
  let table ← rows LedgerLine
  put (version.elim table table.erase)
  log .info .ledger s!"Removed migration {Failure.shown version} from the ledger"

end Lookout.Ledger
