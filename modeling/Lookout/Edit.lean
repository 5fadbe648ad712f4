import Lookout.Session

/-!
# Edits

Changing and removing single rows by hand, under the same rules that services obey:
required columns hold something, unique keys stay unique, and every parent exists.
-/

namespace Lookout.Edit

open Operation Store
open Schema (Column TableName)

/-- A row with other values in some columns. -/
def assignAll {α : Type} [Relation α] (row : α) : List (Column × Cell) → Operation α
  | [] => return row
  | (column, value) :: rest =>
      match Relation.assign row column value with
      | some row => assignAll row rest
      | none => refuse (.unfit (Relation.table α) column)

/-- The first required column that would be empty, in the order of the table. -/
def emptied? (table : TableName) (values : List (Column × Cell)) : Option Column :=
  (table.definition.columns.find? fun definition =>
    definition.required && values.contains (definition.column, .null)).map (·.column)

/-- The first table that a changed column leads to and that does not exist. -/
def missingParent? (database : Database) (table : TableName) (values : List (Column × Cell)) :
    Option TableName :=
  let changed := table.definition.foreignKeys.filter fun key =>
    values.any fun value => value.1 = key.column
  (changed.map (·.parent)).find? fun parent => !database.catalog.hasTable parent

/-- Set columns of the row under a number, its number included. The answer says how many
rows there were. -/
def editIn (α : Type) [Relation α] (id : Option Int) (values : List (Column × Cell)) :
    Operation Nat := do
  let name := Relation.table α
  require [name]
  if let some parent := missingParent? (← database) name values then
    refuse (.parentTableMissing parent)
  fits (id :: values.map fun value => value.2.integer?)
  match id.bind (← rows α).get? with
  | none => return 0
  | some entry =>
      let id := entry.id
      let key := name.definition.key
      if values.contains (key, .null) then refuse .keyMismatch
      if let some column := emptied? name values then refuse (.emptyColumn name column)
      let renamed := ((values.lookup key).bind Cell.integer?).getD id
      let row ← assignAll entry.row (values.filter fun value => value.1 ≠ key)
      let database ← database
      let others := ((Relation.read database : Table α).erase id).entries
      if others.any fun other => other.id = renamed then refuse (.duplicate name [key])
      if let some columns := violatedKey? database others row then refuse (.duplicate name columns)
      if !hasParents database row then refuse .orphan
      put ((Relation.read database : Table α).update (fun other => other.id = id) fun _ => row)
      if renamed ≠ id then change fun database => database.renumber name id renamed
      return 1

/-- Set columns of a row of a table. -/
def edit (table : TableName) (id : Option Int) (values : List (Column × Cell)) : Operation Nat := do
  let count ← match table with
    | .position => refuse (.tableMissing .position)
    | .ledger => editIn LedgerLine id values
    | .journal => editIn JournalLine id values
    | .accounts => editIn Account id values
    | .tokens => editIn Token id values
    | .invites => editIn Invite id values
    | .threads => editIn Thread id values
    | .descriptors => editIn Descriptor id values
    | .posts => editIn Post id values
    | .replies => editIn Reply id values
    | .watches => editIn Watch id values
  commit
  return count

/-- Remove a row of a table with all that names it; the answer says whether there was
one. -/
def remove (table : TableName) (id : Option Int) : Operation Bool := do
  require [table]
  fits [id]
  let stored := id.any ((← database).hasRow table)
  change fun database => database.erase table fun other => some other = id
  commit
  return stored

end Lookout.Edit
