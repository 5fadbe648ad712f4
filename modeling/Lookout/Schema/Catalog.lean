import Lookout.Schema.Definition

/-!
# Catalogs

A catalog says which tables and indexes a store has. A change adds or removes one of
them and fails where it would add what is there or remove what is not.
-/

namespace Lookout.Schema

/-- An index over columns of the table that its name belongs to. -/
structure Index where
  name : IndexName
  unique : Bool
  columns : List Column
  deriving DecidableEq, Repr

/-- The table of an index. -/
def Index.table (index : Index) : TableName :=
  index.name.table

/-- One step of a schema change. -/
inductive Change where
  | createTable (table : TableName)
  | dropTable (table : TableName)
  | createIndex (index : Index)
  | dropIndex (name : IndexName)
  deriving DecidableEq, Repr

/-- Why a catalog refuses a change. -/
inductive ChangeError where
  | tableExists (table : TableName)
  | tableMissing (table : TableName)
  | indexExists (name : IndexName)
  | indexMissing (name : IndexName)
  deriving DecidableEq, Repr

/-- The tables and indexes of a store. -/
structure Catalog where
  tables : List TableName := []
  indexes : List Index := []
  deriving DecidableEq, Repr

namespace Catalog

/-- Whether a table exists. -/
def hasTable (catalog : Catalog) (table : TableName) : Bool :=
  catalog.tables.contains table

/-- Whether an index exists. -/
def hasIndex (catalog : Catalog) (name : IndexName) : Bool :=
  catalog.indexes.any fun index => index.name = name

/-- The indexes of a table. -/
def indexesOf (catalog : Catalog) (table : TableName) : List Index :=
  catalog.indexes.filter fun index => index.table = table

/-- The column lists that must be unique in a table, its own key apart. -/
def uniqueKeys (catalog : Catalog) (table : TableName) : List (List Column) :=
  ((catalog.indexesOf table).filter (·.unique)).map (·.columns)

/-- The catalog after a change. Dropping a table drops its indexes. -/
def apply (catalog : Catalog) : Change → Except ChangeError Catalog
  | .createTable table =>
      if catalog.hasTable table then .error (.tableExists table)
      else .ok { catalog with tables := catalog.tables ++ [table] }
  | .dropTable table =>
      if catalog.hasTable table then
        .ok { tables := catalog.tables.filter (· ≠ table),
              indexes := catalog.indexes.filter fun index => index.table ≠ table }
      else .error (.tableMissing table)
  | .createIndex index =>
      if catalog.hasTable index.table then
        if catalog.hasIndex index.name then .error (.indexExists index.name)
        else .ok { catalog with indexes := catalog.indexes ++ [index] }
      else .error (.tableMissing index.table)
  | .dropIndex name =>
      if catalog.hasIndex name then
        .ok { catalog with indexes := catalog.indexes.filter fun index => index.name ≠ name }
      else .error (.indexMissing name)

/-- The catalog after changes made one after the other. -/
def applyAll (catalog : Catalog) (changes : List Change) : Except ChangeError Catalog :=
  changes.foldlM apply catalog

end Catalog

end Lookout.Schema
