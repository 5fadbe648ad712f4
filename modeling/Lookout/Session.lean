import Lookout.Draws
import Lookout.Failure
import Lookout.Store.Relation

/-!
# Sessions

One operation works in one session: it reads and changes the current database, and what
it commits is saved. An operation that fails, or ends without a commit, leaves behind
what was saved last. Log lines and draws stay whatever happens.
-/

namespace Lookout

open Schema (Column TableName)
open Store
open Time (Moment Stamp WallTime)

/-- How grave a log line is. -/
inductive Level where
  | debug
  | info
  | warning
  | error
  | critical
  deriving DecidableEq, Repr

/-- The name of a level. -/
def Level.name : Level → String
  | debug => "DEBUG"
  | info => "INFO"
  | warning => "WARNING"
  | error => "ERROR"
  | critical => "CRITICAL"

/-- The part of the program that a log line comes from. -/
inductive Source where
  | accounts
  | invites
  | replies
  | watches
  | threads
  | ledger
  | migrations
  | console
  deriving DecidableEq, Repr

/-- The name that log lines show for a part of the program. -/
def Source.name : Source → String
  | accounts => "threadwatch.services.accounts"
  | invites => "threadwatch.services.invites"
  | replies => "threadwatch.services.post_replies"
  | watches => "threadwatch.services.post_watches"
  | threads => "threadwatch.services.threads"
  | ledger => "threadwatch.services.migration_ledger"
  | migrations => "threadwatch.migrations"
  | console => "threadwatch.cli"

/-- One line of the log. -/
structure LogLine where
  level : Level
  source : Source
  text : String
  deriving DecidableEq, Repr

/-- What surrounds an operation and stands still while it runs: the clock, in universal
time, and the settings. -/
structure Context where
  clock : WallTime
  settings : Settings := {}

/-- What an operation works on. -/
structure Session where
  /-- The database as of the last commit. -/
  saved : Database
  /-- The database as the operation sees it. -/
  current : Database
  /-- Whether rows have been changed since the last commit. -/
  isOpen : Bool := false
  draws : Draws := {}
  log : List LogLine := []

/-- What an operation does to a session: it answers or fails. -/
abbrev Operation := ReaderT Context (EStateM Failure Session)

/-- What is left of an operation when its session ends. -/
structure Outcome (α : Type) where
  answer : Except Failure α
  database : Database
  draws : Draws
  log : List LogLine

namespace Operation

/-- Run an operation in a session of its own. -/
def perform {α : Type} (operation : Operation α) (context : Context) (database : Database)
    (draws : Draws) : Outcome α :=
  match (operation context).run { saved := database, current := database, draws } with
  | .ok answer session => ⟨.ok answer, session.saved, session.draws, session.log⟩
  | .error failure session => ⟨.error failure, session.saved, session.draws, session.log⟩

/-- The database as the operation sees it. -/
def database : Operation Database := do
  return (← get).current

/-- The rows of a table. -/
def rows (α : Type) [Relation α] : Operation (Table α) := do
  return Relation.read (← database)

/-- The present moment. -/
def now : Operation Moment := do
  return Moment.utc (← read).clock

/-- The stamp that a column with a default gets now. -/
def stamp : Operation Stamp := do
  return Stamp.ofClock (← read).clock

/-- Write a log line. -/
def log (level : Level) (source : Source) (text : String) : Operation Unit :=
  modify fun session => { session with log := session.log ++ [⟨level, source, text⟩] }

/-- Save what has been changed. -/
def commit : Operation Unit :=
  modify fun session => { session with saved := session.current, isOpen := false }

/-- Forget what has been changed since the last commit. -/
def rollback : Operation Unit :=
  modify fun session => { session with current := session.saved, isOpen := false }

/-- Change rows, which stays undone until the next commit. -/
def change (step : Database → Database) : Operation Unit :=
  modify fun session => { session with current := step session.current, isOpen := true }

/-- Replace the rows of a table. -/
def put {α : Type} [Relation α] (table : Table α) : Operation Unit :=
  change fun database => Relation.write database table

/-- Fail because the store refuses a statement. -/
def refuse {α : Type} (error : StoreError) : Operation α :=
  throw (.store error)

/-- A statement needs these tables; the first that does not exist refuses it. -/
def require (tables : List TableName) : Operation Unit := do
  let catalog := (← database).catalog
  match tables.find? fun table => !catalog.hasTable table with
  | some table => refuse (.tableMissing table)
  | none => return

/-- Whether a number can be stored. -/
def isStorable (number : Int) : Bool :=
  -Cell.maxInteger - 1 ≤ number && number ≤ Cell.maxInteger

/-- The numbers that a statement is given have to be storable. -/
def fits (numbers : List (Option Int)) : Operation Unit :=
  if numbers.all fun number => number.all isStorable then return
  else refuse .numberTooLarge

/-- The whole number that a value has to convert to. -/
def wholeNumber (value : Value) : Operation Int :=
  match value.toInteger with
  | .ok number => return number
  | .error error => throw (.notInteger error)

/-- A column that has to hold something. -/
def needed {α : Type} (table : TableName) (column : Column) : Option α → Operation α
  | some value => return value
  | none => refuse (.emptyColumn table column)

/-- What an insertion into a table needs: the table, a unique key over the columns whose
conflicts it ignores, and the tables that its foreign keys lead to. -/
def prepareInsertion (table : TableName) (ignoring : Option (List Column)) : Operation Unit := do
  require [table]
  let catalog := (← database).catalog
  if ignoring.any fun key => !(catalog.uniqueKeys table).contains key then
    refuse .noSuchKey
  match (table.definition.foreignKeys.map (·.parent)).find? fun parent =>
      !catalog.hasTable parent with
  | some parent => refuse (.parentTableMissing parent)
  | none => return

/-- The unique key in which a row is like one of the others, the newest key first. -/
def violatedKey? {α : Type} [Relation α] (database : Database) (others : List (Entry α)) (row : α) :
    Option (List Column) :=
  (database.catalog.uniqueKeys (Relation.table α)).reverse.find? fun key =>
    others.any fun entry => Relation.alike key row entry.row

/-- Whether every row that a row names exists. -/
def hasParents {α : Type} [Relation α] (database : Database) (row : α) : Bool :=
  (Relation.table α).definition.foreignKeys.all fun key =>
    match Relation.cell row key.column with
    | .integer id => database.hasRow key.parent id
    | _ => true

/-- Add a row, which has to be unlike the others in every unique key and to have its
parents. The answer is its number. -/
def add {α : Type} [Relation α] (row : α) : Operation Int := do
  let database ← database
  let table : Table α := Relation.read database
  match violatedKey? database table.entries row with
  | some key => refuse (.duplicate (Relation.table α) key)
  | none =>
      if hasParents database row then
        put (table.add row)
        return table.nextId
      else refuse .orphan

/-- Add a row unless one is like it in a key. The answer is the number of the row that is
there then, and whether it was added. -/
def addUnlessAlike {α : Type} [Relation α] (key : List Column) (row : α) :
    Operation (Int × Bool) := do
  let table ← rows α
  match table.find? fun entry => Relation.alike key row entry.row with
  | some entry => return (entry.id, false)
  | none => return (← add row, true)

/-- Where the store refuses an operation to keep the rows whole, undo it and fail for
another cause. -/
def orFail {α : Type} (failure : Failure) (operation : Operation α) : Operation α :=
  tryCatch operation fun
    | .store error => do
        if error.isIntegrity then
          rollback
          throw failure
        else throw (.store error)
    | other => throw other

/-- Change the rows of a kind; the answer says how many there were. -/
def updateWhere {α : Type} [Relation α] (wanted : Entry α → Bool) (step : α → α) :
    Operation Nat := do
  let table ← rows α
  put (table.update wanted step)
  return table.count wanted

/-- Remove the rows of a kind with all that names them; the answer says how many of the
kind there were. -/
def eraseWhere {α : Type} [Relation α] (wanted : Entry α → Bool) : Operation Nat := do
  let table ← rows α
  let gone := table.select wanted
  change fun database => database.erase (Relation.table α) fun id =>
    gone.any fun entry => entry.id = id
  return gone.length

/-- The next random text of a length. -/
def drawText (length : Nat) : Operation String :=
  modifyGet fun session =>
    let (drawn, draws) := session.draws.text length
    (drawn, { session with draws })

/-- Draw texts of a length until one is free, at most so many times. -/
def drawWhere (length : Nat) (isFree : String → Operation Bool) : Nat → Operation String
  | 0 => throw .drawsExhausted
  | attempts + 1 => do
      let drawn ← drawText length
      if ← isFree drawn then return drawn
      else drawWhere length isFree attempts

/-- Draw a free text of a length. -/
def drawFree (length : Nat) (isFree : String → Operation Bool) : Operation String := do
  drawWhere length isFree (← get).draws.attempts

/-- The first so many of a list; a missing or negative number sets no limit. -/
def limited {α : Type} (limit : Option Int) (answers : List α) : List α :=
  match limit with
  | some count => if count < 0 then answers else answers.take count.toNat
  | none => answers

end Operation

end Lookout
