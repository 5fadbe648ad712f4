import Lookout.Schema.Catalog

/-!
# Store errors

Why the store refuses a statement, and the text it refuses it with.
-/

namespace Lookout

open Schema (ChangeError Column TableName)

/-- Why the store refuses a statement. -/
inductive StoreError where
  /-- A schema change does not fit the catalog. -/
  | change (error : ChangeError)
  /-- A statement names a table that does not exist. -/
  | tableMissing (table : TableName)
  /-- A table that a foreign key leads to does not exist. -/
  | parentTableMissing (table : TableName)
  /-- An insertion tells what to do about a key that is not unique here. -/
  | noSuchKey
  /-- A column that has to hold something is empty. -/
  | emptyColumn (table : TableName) (column : Column)
  /-- Another row has the same key. -/
  | duplicate (table : TableName) (columns : List Column)
  /-- The row that a foreign key names does not exist. -/
  | orphan
  /-- A number does not fit into 64 bits. -/
  | numberTooLarge
  /-- The key of a row has to be a number. -/
  | keyMismatch
  /-- A column cannot hold a value of this type. -/
  | unfit (table : TableName) (column : Column)
  deriving DecidableEq, Repr

/-- The text of a refused schema change. -/
def Schema.ChangeError.message : ChangeError → String
  | tableExists table => s!"table {table.text} already exists"
  | tableMissing table => s!"no such table: {table.text}"
  | indexExists name => s!"index {name.text} already exists"
  | indexMissing name => s!"no such index: {name.text}"

namespace StoreError

/-- The text of a refused statement. It is the driver's own, without the statement and its
parameters. -/
def message : StoreError → String
  | change error => error.message
  | tableMissing table => s!"no such table: {table.text}"
  | parentTableMissing table => s!"no such table: main.{table.text}"
  | noSuchKey => "ON CONFLICT clause does not match any PRIMARY KEY or UNIQUE constraint"
  | emptyColumn table column => s!"NOT NULL constraint failed: {table.text}.{column.text}"
  | duplicate table columns =>
      "UNIQUE constraint failed: " ++
        ", ".intercalate (columns.map fun column => s!"{table.text}.{column.text}")
  | orphan => "FOREIGN KEY constraint failed"
  | numberTooLarge => "Python int too large to convert to SQLite INTEGER"
  | keyMismatch => "datatype mismatch"
  | unfit table column => s!"datatype mismatch: {table.text}.{column.text}"

/-- Whether a statement was refused to keep the rows whole. -/
def isIntegrity : StoreError → Bool
  | emptyColumn .. | duplicate .. | orphan | keyMismatch => true
  | _ => false

end StoreError

end Lookout
