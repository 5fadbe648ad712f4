import Lookout.Schema.Catalog
import Lookout.Text.Quoted

/-!
# Dialects

The two databases that schema changes can be written for, and how each of them spells
the definition of a table or an index.
-/

namespace Lookout.Schema

/-- A database language. -/
inductive Dialect where
  | sqlite
  | postgresql
  deriving DecidableEq, Repr

namespace Dialect

/-- The name of a dialect. -/
def name : Dialect → String
  | sqlite => "sqlite"
  | postgresql => "postgresql"

/-- The dialect of a name. -/
def ofName? (name : String) : Option Dialect :=
  [sqlite, postgresql].find? fun dialect => dialect.name == name

/-- What is wrong with the name of a dialect that has no upserts here. -/
def unsupported (name : Option String) : String :=
  s!"Upserts are not supported on dialect {Text.quoted? name}"

/-- The name of a column type. -/
def typeText : Dialect → ColumnType → String
  | sqlite, .numbered => "INTEGER"
  | postgresql, .numbered => "BIGSERIAL"
  | sqlite, .moment => "DATETIME"
  | postgresql, .moment => "TIMESTAMP WITH TIME ZONE"
  | _, .integer => "INTEGER"
  | _, .bigInteger => "BIGINT"
  | _, .smallInteger => "SMALLINT"
  | _, .flag => "BOOLEAN"
  | _, .text none => "VARCHAR"
  | _, .text (some limit) => s!"VARCHAR({limit})"

/-- What follows `DEFAULT` in a column. -/
def defaultText : Dialect → ColumnDefault → String
  | postgresql, .clock => "now()"
  | sqlite, .integer value => if value < 0 then s!"({value})" else toString value
  | _, value => value.text

/-- One column inside the definition of a table. -/
def columnText (dialect : Dialect) (column : ColumnDefinition) : String :=
  column.column.text ++ " " ++ dialect.typeText column.type ++
    (match column.default? with
      | some value => " DEFAULT " ++ dialect.defaultText value
      | none => "") ++
    if column.required then " NOT NULL" else ""

/-- A foreign key inside the definition of a table. -/
def foreignKeyText (key : ForeignKey) : String :=
  s!"CONSTRAINT {key.name} FOREIGN KEY({key.column.text}) REFERENCES {key.parent.text} (id) " ++
    "ON DELETE CASCADE ON UPDATE CASCADE"

/-- The statement that creates a table. -/
def createTableText (dialect : Dialect) (table : TableName) : String :=
  let definition := table.definition
  let key := (match definition.keyName with
    | some name => s!"CONSTRAINT {name} "
    | none => "") ++ s!"PRIMARY KEY ({definition.key.text})"
  let parts := definition.columns.map dialect.columnText ++ [key] ++
    definition.foreignKeys.map foreignKeyText
  s!"CREATE TABLE {table.text} ( " ++ ", ".intercalate parts ++ " )"

/-- The statement that creates an index. -/
def createIndexText (index : Index) : String :=
  (if index.unique then "CREATE UNIQUE INDEX " else "CREATE INDEX ") ++ index.name.text ++ " ON " ++
    index.table.text ++ " (" ++ ", ".intercalate (index.columns.map Column.text) ++ ")"

/-- The statement of a schema change. -/
def changeText (dialect : Dialect) : Change → String
  | .createTable table => dialect.createTableText table
  | .dropTable table => s!"DROP TABLE {table.text}"
  | .createIndex index => createIndexText index
  | .dropIndex name => s!"DROP INDEX {name.text}"

end Dialect

end Lookout.Schema
