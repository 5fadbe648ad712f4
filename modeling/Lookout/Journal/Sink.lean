import Lookout.Journal
import Lookout.Journal.Severity
import Lookout.Text.Template

/-!
# Sinks

A sink keeps log records back and stores them in batches, in the order in which they
came. A batch is stored whole or not at all; one that cannot be stored is dropped and
counted. Records of the loggers that storing itself writes to are never accepted.
-/

namespace Lookout.Journal

open Time (Moment WallTime)

/-- A log record before it is stored. -/
structure Record where
  logger : String
  severity : Int
  /-- A name for the severity other than its usual one. -/
  severityName? : Option String := none
  /-- The message, or a template for it. -/
  message : Value
  arguments : List Value := []
  /-- The seconds since the start of 1970. -/
  created : Value
  /-- The text of an error that goes with the record. -/
  exceptionText : String := ""

namespace Record

/-- The loggers whose records are never stored. -/
def ignoredLoggers : List String := ["sqlalchemy", "alembic"]

/-- Whether a record may be stored. -/
def isAccepted (record : Record) : Bool :=
  !ignoredLoggers.any fun name => record.logger.startsWith name

/-- A message with the text of an error below it. -/
def withException (message exceptionText : String) : String :=
  if exceptionText.isEmpty then message
  else if message.toList.getLast? = some '\n' then message ++ exceptionText
  else message ++ "\n" ++ exceptionText

/-- The name of a record's severity, cut to the width of its column. -/
def severityText (record : Record) : String :=
  String.ofList ((record.severityName?.getD (severityName record.severity)).toList.take 8)

/-- The date of a record, if it carries a number of seconds that has one. -/
def date? (record : Record) : Option WallTime :=
  match record.created with
  | .real seconds => WallTime.ofEpochDouble? seconds
  | value => value.integer?.bind WallTime.ofEpochSeconds?

/-- The line that a record is stored as, unless its template or its date is bad. -/
def draft? (record : Record) : Option Draft := do
  let wall ← record.date?
  let message ← Text.fill? record.message.plain record.arguments
  return {
    time := some (Moment.utc wall)
    level := some record.severityText
    target := some record.logger
    message := some (withException message record.exceptionText) }

end Record

/-- A place that log records go to. -/
structure Sink where
  /-- How many records make the sink full; without a number no record can be counted. -/
  capacity : Option Int
  threshold : Int := 20
  buffer : List Record := []
  failures : Nat := 0

/-- How many records a sink keeps back unless it is told otherwise. -/
def defaultCapacity : Int := 128

namespace Sink

variable {Store : Type}

/-- Store what a sink has kept back. The sink is empty afterwards; if the batch cannot be
written it is dropped and counted as one failure. -/
def flush (write : List Record → Store → Option Store) (sink : Sink) (store : Store) :
    Sink × Store :=
  if sink.buffer.isEmpty then (sink, store)
  else match write sink.buffer store with
    | some store => ({ sink with buffer := [] }, store)
    | none => ({ sink with buffer := [], failures := sink.failures + 1 }, store)

/-- Give a record to a sink, which stores what it has as soon as it is full. -/
def emit (write : List Record → Store → Option Store) (sink : Sink) (record : Record)
    (store : Store) : Sink × Store :=
  if record.isAccepted then
    let filled := { sink with buffer := sink.buffer ++ [record] }
    if filled.capacity.any fun capacity => capacity ≤ (filled.buffer.length : Int) then
      filled.flush write store
    else (filled, store)
  else (sink, store)

/-- Deliver a record to a sink if it is grave enough. -/
def deliver (write : List Record → Store → Option Store) (sink : Sink) (record : Record)
    (store : Store) : Sink × Store :=
  if sink.threshold ≤ record.severity then sink.emit write record store else (sink, store)

/-- What is wrong with a delivery: a sink without a number for its capacity keeps the record
and cannot tell whether it is full. -/
def complaint? (sink : Sink) (record : Record) : Option Failure :=
  if sink.threshold ≤ record.severity ∧ record.isAccepted ∧ sink.capacity.isNone then
    some (.unordered ">=" "int" "NoneType")
  else none

/-- The threshold that a value stands for: a number, or the name of a level in capitals. -/
def thresholdOf : Value → Except Failure Int
  | .text name => match severity? name with
      | some number => .ok number
      | none => .error (.unknownLevel name)
  | value => match value.integer? with
      | some number => .ok number
      | none => .error (.unfitLevel value.shown)

/-- A sink with a capacity and the threshold that a value stands for. -/
def ofGiven (capacity : Option Int) (threshold : Value) : Except Failure Sink := do
  return { capacity, threshold := ← thresholdOf threshold }

end Sink

/-- Write a batch of records to the journal of a database. -/
def writeBatch (context : Context) (records : List Record) (database : Database) :
    Option Database := do
  let drafts ← records.mapM Record.draft?
  let outcome := (appendAll (some drafts)).perform context database {}
  match outcome.answer with
  | .ok _ => some outcome.database
  | .error _ => none

/-- What setting up logging leads to: the level of everything, how many places records go
to, and the sink that stores them, if they are to be stored. -/
structure Setup where
  severity : Nat
  places : Nat
  sink : Option Sink

/-- Set up logging at a level, on the console and, if wanted, in the store. -/
def setUp (settings : Settings) (level : Option String) (stored : Bool) : Except Failure Setup := do
  let severity ← chosenSeverity settings level
  return {
    severity
    places := if stored then 2 else 1
    sink := if stored then some { capacity := some defaultCapacity, threshold := severity } else none }

end Lookout.Journal
