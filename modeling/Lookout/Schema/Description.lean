import Lookout.Schema.Dialect

/-!
# Descriptions

What a catalog looks like from outside: the columns, indexes and foreign keys of its
tables, each in a fixed order.
-/

namespace Lookout.Schema

/-- A column as a description shows it. -/
structure ColumnDescription where
  name : String
  type : String
  isRequired : Bool
  defaultText : Option String
  isKey : Bool
  deriving DecidableEq, Repr

/-- A table as a description shows it. -/
structure TableDescription where
  table : TableName
  columns : List ColumnDescription
  indexes : List Index
  foreignKeys : List ForeignKey
  deriving DecidableEq, Repr

/-- A column of a table as a description shows it. -/
def ColumnDefinition.describe (definition : ColumnDefinition) (key : Column) : ColumnDescription where
  name := definition.column.text
  type := Dialect.sqlite.typeText definition.type
  isRequired := definition.required
  defaultText := definition.default?.map ColumnDefault.text
  isKey := definition.column = key

/-- The order of foreign keys in a description. -/
def ForeignKey.le (left right : ForeignKey) : Bool :=
  left.column.text < right.column.text ||
    (left.column = right.column && left.parent.text ≤ right.parent.text)

namespace Catalog

/-- A table of a catalog as a description shows it. -/
def describeTable (catalog : Catalog) (table : TableName) : TableDescription where
  table
  columns := table.definition.columns.map fun definition => definition.describe table.definition.key
  indexes := (catalog.indexesOf table).mergeSort fun left right => left.name.text ≤ right.name.text
  foreignKeys := table.definition.foreignKeys.mergeSort ForeignKey.le

/-- Those of some tables that a catalog has. -/
def describe (catalog : Catalog) (tables : List TableName) : List TableDescription :=
  (tables.filter catalog.hasTable).map catalog.describeTable

end Catalog

end Lookout.Schema
