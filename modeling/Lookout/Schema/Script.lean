import Lookout.Schema.Dialect
import Lookout.Schema.Target

/-!
# Scripts

A schema change as a list of statements, for someone else to run later. A script keeps
the position of the schema and, on the way up, the ledger of revisions itself. The tool that
prints it decides what becomes of the table of the position when none is left.
-/

namespace Lookout.Schema

/-- One statement of a script. -/
inductive Statement where
  | begin
  | commit
  | change (step : Change)
  /-- The schema leaves the empty position. -/
  | enterPosition (revision : Revision)
  | movePosition (old new : Revision)
  /-- The schema returns to the empty position. -/
  | leavePosition (revision : Revision)
  | recordRevision (revision : Revision)
  deriving DecidableEq, Repr

/-- A statement in the words of a dialect. -/
def Statement.text (dialect : Dialect) : Statement → String
  | begin => "BEGIN"
  | commit => "COMMIT"
  | .change step => dialect.changeText step
  | enterPosition revision =>
      let returned := match dialect with
        | .sqlite => "version_num"
        | .postgresql => "alembic_version.version_num"
      s!"INSERT INTO alembic_version (version_num) VALUES ('{revision.key}') RETURNING {returned}"
  | movePosition old new =>
      s!"UPDATE alembic_version SET version_num='{new.key}' " ++
        s!"WHERE alembic_version.version_num = '{old.key}'"
  | leavePosition revision =>
      s!"DELETE FROM alembic_version WHERE alembic_version.version_num = '{revision.key}'"
  | recordRevision revision =>
      "INSERT INTO migrations (version, name, checksum) VALUES " ++
        s!"({revision.number}, '{revision.label}', '{revision.checksum}')"

namespace Script

/-- The statement that moves the position from one place to another. -/
def moved : Option Revision → Option Revision → List Statement
  | none, some revision => [.enterPosition revision]
  | some old, some new => [.movePosition old new]
  | some revision, none => [.leavePosition revision]
  | none, none => []

/-- The statements of one step. The first step from the empty position also creates the
table that keeps the position. -/
def ofStep (direction : Direction) (revision : Revision) : List Statement :=
  match direction with
  | .upgrade =>
      (if revision.previous?.isNone then [Statement.change (.createTable .position)] else []) ++
        revision.upgrade.map .change ++ moved revision.previous? (some revision) ++
        [.recordRevision revision]
  | .downgrade => revision.downgrade.map .change ++ moved (some revision) revision.previous?

/-- The position after steps from another one. -/
def arrival (direction : Direction) (start : Option Revision) (steps : List Revision) :
    Option Revision :=
  match steps.getLast?, direction with
  | none, _ => start
  | some revision, .upgrade => some revision
  | some revision, .downgrade => revision.previous?

/-- What a script without a position at its end does with the table that kept it. -/
inductive Ending where
  /-- The table stays, without a line. -/
  | keepsTable
  | dropsTable
  deriving DecidableEq, Repr

/-- The last statements of a script that leads to a position. -/
def Ending.statements : Ending → Option Revision → List Statement
  | .dropsTable, none => [.change (.dropTable .position)]
  | _, _ => []

/-- Nothing is added where a position is left. -/
@[simp]
theorem Ending.statements_some (ending : Ending) (revision : Revision) :
    ending.statements (some revision) = [] := by
  cases ending <;> rfl

/-- A script between the marks that a dialect puts around one transaction. -/
def frame (dialect : Dialect) (statements : List Statement) : List Statement :=
  match dialect with
  | .sqlite => statements
  | .postgresql => [.begin] ++ statements ++ [.commit]

/-- Where a range starts and where it leads: a text without a colon has no start. -/
def splitRange (text : String) : Except TargetError (Option String × String) :=
  match text.toList.splitOn ':' with
  | [start, target] => .ok (some (String.ofList start), String.ofList target)
  | _ :: _ :: _ :: _ => .error .tooManyParts
  | _ => .ok (none, text)

/-- The position that a range starts at: the empty schema by its name, or a revision. -/
def startOf (name : String) : Except TargetError (Option Revision) := do
  if name = "base" then return none
  match ← named name with
  | some revision => return some revision
  | none => .error .noStart

/-- The script of a schema change as a tool with such an ending prints it. An upgrade without a
start begins with no schema. -/
def ofTargetWith (ending : Ending) (dialect : Dialect) (direction : Direction)
    (target : Option String) : Except TargetError (List Statement) := do
  let some text := target | .error .missing
  let (start, goal) ← splitRange text
  let position ← match start, direction with
    | some name, _ => startOf name
    | none, .upgrade => .ok none
    | none, .downgrade => .error .rangeRequired
  let steps ← route direction position goal
  return frame dialect
    (steps.flatMap (ofStep direction) ++ ending.statements (arrival direction position steps))

/-- The script of a schema change, after which the table of the position stays. -/
def ofTarget : Dialect → Direction → Option String → Except TargetError (List Statement) :=
  ofTargetWith .keepsTable

end Script

end Lookout.Schema
