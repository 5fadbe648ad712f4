import Lookout.Proofs.Runs

/-!
# Integrity of a database

No two rows of a table are alike in a unique key, and every row that another one names
exists. Each kind of change that the services make to rows keeps this up: an addition that the
store takes, a change of columns that identify nothing, and a removal that cascades.
-/

namespace Lookout

open Schema (Column Index Revision TableName)
open Store

namespace Schema

/-- The unique indexes of all the revisions. -/
def uniqueIndexes : List Index :=
  open Revision in
  [accountIdIndex, tokenOwnerIndex true, tokenUniqueIndex, tokenSlotIndex, threadUniqueIndex,
    descriptorUniqueIndex, replyUniqueIndex, watchUniqueIndex false, watchUniqueIndex true,
    postDescriptorIndex, inviteIdIndex]

/-- The columns of a table that tell its rows apart or name rows of other tables. -/
@[simp] def TableName.identifying : TableName → List Column
  | position | ledger | journal => []
  | accounts => [.accountId]
  | tokens => [.ownerAccountId, .token, .applicationType, .tokenType]
  | invites => [.inviteId]
  | threads => [.siteName, .boardCode, .threadNo]
  | descriptors => [.ownerThreadId, .postNo, .postSubNo]
  | posts => [.ownerDescriptorId]
  | replies => [.ownerAccountId, .ownerDescriptorId, .replyToDescriptorId]
  | watches => [.ownerAccountId, .ownerDescriptorId, .applicationType]

/-- Unique indexes are over columns that identify. -/
theorem identifying_of_uniqueIndexes :
    ∀ index ∈ uniqueIndexes, ∀ column ∈ index.columns, column ∈ index.table.identifying := by
  decide

/-- So are foreign keys. -/
theorem identifying_of_foreignKeys (table : TableName) :
    ∀ key ∈ table.definition.foreignKeys, key.column ∈ table.identifying := by
  cases table <;> decide

end Schema

/-- What a row holds in the columns of a key, unless one of them is empty. -/
def keyIn (columns : List Column) (held : Column → Cell) : Option (List Cell) :=
  let cells := columns.map held
  if cells.contains .null then none else some cells

/-- Two rows are alike in a key where both hold it and hold the same. -/
theorem Relation.alike_iff {α : Type} [Relation α] {columns : List Column} {left right : α} :
    Relation.alike columns left right = true ↔
      ∃ key, keyIn columns (Relation.cell left) = some key ∧
        keyIn columns (Relation.cell right) = some key := by
  have same (row : α) : Relation.keyOf columns row = keyIn columns (Relation.cell row) := rfl
  unfold Relation.alike
  simp only [same]
  cases keyIn columns (Relation.cell left) <;> simp

/-- Rows that are alike in a key hold the same in each of its columns. -/
theorem Relation.cell_eq_of_alike {α : Type} [Relation α] {columns : List Column} {left right : α}
    (alike : Relation.alike columns left right = true) {column : Column}
    (isColumn : column ∈ columns) : Relation.cell left column = Relation.cell right column := by
  obtain ⟨key, ofLeft, ofRight⟩ := Relation.alike_iff.mp alike
  have held {row : α} (isKey : keyIn columns (Relation.cell row) = some key) :
      columns.map (Relation.cell row) = key := by
    dsimp only [keyIn] at isKey
    split at isKey
    · cases isKey
    · exact Option.some.inj isKey
  exact List.map_inj_left.mp ((held ofLeft).trans (held ofRight).symm) column isColumn

/-- Rows that are alike in the columns of a key hold the same key. -/
theorem keyIn_congr {columns : List Column} {left right : Column → Cell}
    (same : ∀ column ∈ columns, left column = right column) :
    keyIn columns left = keyIn columns right := by
  unfold keyIn
  rw [List.map_congr_left same]

/-- No two of some rows hold the same key. -/
def AreUnlike (columns : List Column) (rows : List (Column → Cell)) : Prop :=
  rows.Pairwise fun left right =>
    ∀ key, keyIn columns left = some key → keyIn columns right ≠ some key

namespace Database

/-- Every row that a row of a table names exists. -/
def IsRooted (database : Database) (table : TableName) (held : Column → Cell) : Prop :=
  ∀ key ∈ table.definition.foreignKeys, ∀ id,
    held key.column = .integer id → database.hasRow key.parent id = true

/-- No two rows of a table are alike in a unique key, and rows name rows that exist. -/
structure IsIntegral (database : Database) : Prop where
  known : ∀ index ∈ database.catalog.indexes, index.unique = true → index ∈ Schema.uniqueIndexes
  unlike : ∀ table, ∀ columns ∈ database.catalog.uniqueKeys table,
    AreUnlike columns (database.cells table)
  rooted : ∀ table, ∀ held ∈ database.cells table, database.IsRooted table held

/-- A change leaves the catalog alone and keeps a database whole. -/
structure Keeps (before after : Database) : Prop where
  catalog : after.catalog = before.catalog
  integral : before.IsIntegral → after.IsIntegral

namespace Keeps

theorem refl (database : Database) : database.Keeps database := ⟨rfl, id⟩

theorem trans {first second third : Database} (left : first.Keeps second)
    (right : second.Keeps third) : first.Keeps third :=
  ⟨right.catalog.trans left.catalog, right.integral ∘ left.integral⟩

end Keeps

variable {α : Type} [Relation α] {database : Database}

/-- The store takes a row that is unlike the others in every unique key and names rows that
exist. -/
theorem unlike_and_rooted_of_admitted {row : α} (admitted : database.refusal? row = none) :
    (∀ columns ∈ database.catalog.uniqueKeys (Relation.table α),
      ∀ entry ∈ (Relation.read database : Table α).entries,
        Relation.alike columns row entry.row = false) ∧
      database.IsRooted (Relation.table α) (Relation.cell row) := by
  unfold refusal? at admitted
  cases violated : Operation.violatedKey? database (Relation.read database).entries row with
  | some key => simp [violated] at admitted
  | none =>
      simp only [violated, ite_eq_left_iff, reduceCtorEq, imp_false, Bool.not_eq_true,
        Bool.not_eq_false] at admitted
      constructor
      · intro columns unique entry stored
        simp only [Operation.violatedKey?, List.find?_eq_none, List.mem_reverse] at violated
        have none := violated columns unique
        rw [Bool.not_eq_true, List.any_eq_false] at none
        simpa using none entry stored
      · intro key isKey id names
        have parents := List.all_eq_true.mp admitted key isKey
        simpa [names] using parents

/-- Such a row it takes. -/
theorem admitted_of_unlike_and_rooted {row : α}
    (unlike : ∀ columns ∈ database.catalog.uniqueKeys (Relation.table α),
      ∀ entry ∈ (Relation.read database : Table α).entries,
        Relation.alike columns row entry.row = false)
    (rooted : database.IsRooted (Relation.table α) (Relation.cell row)) :
    database.refusal? row = none := by
  have unviolated :
      Operation.violatedKey? database (Relation.read database : Table α).entries row = none := by
    simp only [Operation.violatedKey?, List.find?_eq_none, List.mem_reverse, Bool.not_eq_true,
      List.any_eq_false]
    exact unlike
  have parents : Operation.hasParents database row = true := by
    refine List.all_eq_true.mpr fun key isKey => ?_
    cases names : Relation.cell row key.column with
    | integer id => exact rooted key isKey id names
    | _ => rfl
  simp [refusal?, unviolated, parents]

/-- In a table with one unique key it is enough that no row is found that is alike in that key. -/
theorem admitted_of_absent {row : α} {key : List Column}
    (only : ∀ columns ∈ database.catalog.uniqueKeys (Relation.table α), columns = key)
    (absent : (Relation.read database : Table α).find?
      (fun entry => Relation.alike key row entry.row) = none)
    (rooted : database.IsRooted (Relation.table α) (Relation.cell row)) :
    database.refusal? row = none := by
  refine admitted_of_unlike_and_rooted (fun columns unique entry stored => ?_) rooted
  rw [only columns unique, Bool.eq_false_iff]
  exact List.find?_eq_none.mp absent entry stored

/-- The store turns a row down only to keep the rows whole. -/
theorem isIntegrity_of_refusal? {row : α} {error : StoreError}
    (refused : database.refusal? row = some error) : error.isIntegrity = true := by
  unfold refusal? at refused
  split at refused
  · cases refused
    rfl
  · split at refused
    · cases refused
    · cases refused
      rfl

/-- A row that is like another one in a unique key is refused as its duplicate. -/
theorem exists_duplicate_of_alike {row : α} {columns : List Column}
    (unique : columns ∈ database.catalog.uniqueKeys (Relation.table α)) {entry : Entry α}
    (stored : entry ∈ (Relation.read database : Table α).entries)
    (alike : Relation.alike columns row entry.row = true) :
    ∃ key, database.refusal? row = some (.duplicate (Relation.table α) key) := by
  cases violated : Operation.violatedKey? database (Relation.read database).entries row with
  | some key => exact ⟨key, by simp [refusal?, violated]⟩
  | none =>
      simp only [Operation.violatedKey?, List.find?_eq_none, List.mem_reverse] at violated
      exact absurd (List.any_eq_true.mpr ⟨entry, stored, alike⟩) (violated columns unique)

variable [LawfulRelation α]

/-- The columns of a unique key of an integral database identify. -/
theorem IsIntegral.identifying (integral : database.IsIntegral) {table : TableName}
    {columns : List Column} (unique : columns ∈ database.catalog.uniqueKeys table) :
    ∃ index ∈ Schema.uniqueIndexes, index.table = table ∧ index.columns = columns := by
  simp only [Schema.Catalog.uniqueKeys, Schema.Catalog.indexesOf, List.mem_map, List.mem_filter,
    decide_eq_true_eq] at unique
  obtain ⟨index, ⟨⟨stored, ofTable⟩, isUnique⟩, rfl⟩ := unique
  exact ⟨index, integral.known index stored isUnique, ofTable, rfl⟩

/-- Writing a table under which no number is lost keeps a database whole if the new rows are
unlike and name rows that exist. -/
theorem Keeps.write {rows : Table α}
    (grows : ∀ id, (Relation.read database : Table α).has id = true → rows.has id = true)
    (unlike : database.IsIntegral → ∀ columns ∈ database.catalog.uniqueKeys (Relation.table α),
      AreUnlike columns (rows.entries.map fun entry => Relation.cell entry.row))
    (rooted : database.IsIntegral → ∀ entry ∈ rows.entries,
      database.IsRooted (Relation.table α) (Relation.cell entry.row)) :
    database.Keeps (Relation.write database rows) := by
  have catalog := LawfulRelation.catalog_write database rows
  have cells : (Relation.write database rows).cells (Relation.table α) =
      rows.entries.map fun entry => Relation.cell entry.row := by
    rw [LawfulRelation.cells_read, LawfulRelation.read_write]
  have kept (table : TableName) (id : Int) (there : database.hasRow table id = true) :
      (Relation.write database rows).hasRow table id = true := by
    by_cases own : table = Relation.table α
    · subst own
      rw [LawfulRelation.hasRow_read] at there ⊢
      rw [LawfulRelation.read_write]
      exact grows id there
    · rwa [← (LawfulRelation.agree_write database rows table own).hasRow]
  refine ⟨catalog, fun integral => ⟨?_, ?_, ?_⟩⟩
  · rw [catalog]
    exact integral.known
  · intro table columns unique
    rw [catalog] at unique
    by_cases own : table = Relation.table α
    · subst own
      rw [cells]
      exact unlike integral columns unique
    · rw [← (LawfulRelation.agree_write database rows table own).cells]
      exact integral.unlike table columns unique
  · intro table held stored key isKey id names
    refine kept key.parent id ?_
    by_cases own : table = Relation.table α
    · subst own
      rw [cells, List.mem_map] at stored
      obtain ⟨entry, stored, rfl⟩ := stored
      exact rooted integral entry stored key isKey id names
    · rw [← (LawfulRelation.agree_write database rows table own).cells] at stored
      exact integral.rooted table held stored key isKey id names

/-- Adding a row that the store takes keeps a database whole. -/
theorem Keeps.added {row : α} (admitted : database.refusal? row = none) :
    database.Keeps (database.added row) := by
  obtain ⟨isUnlike, isRooted⟩ := unlike_and_rooted_of_admitted admitted
  refine Keeps.write ?_ ?_ ?_
  · intro id there
    simp only [Table.has, Table.entries_add, List.any_append]
    simp only [Table.has] at there
    rw [there, Bool.true_or]
  · intro integral columns unique
    have old := integral.unlike _ columns unique
    rw [LawfulRelation.cells_read (α := α)] at old
    rw [Table.entries_add, List.map_append]
    refine List.pairwise_append.mpr ⟨old, List.pairwise_singleton _ _, ?_⟩
    intro left stored right isNew key ofLeft ofRight
    obtain ⟨entry, isOld, rfl⟩ := List.mem_map.mp stored
    obtain rfl := List.mem_singleton.mp isNew
    have alike := Relation.alike_iff.mpr ⟨key, ofRight, ofLeft⟩
    rw [isUnlike columns unique entry isOld] at alike
    cases alike
  · intro integral entry stored
    rw [Table.entries_add, List.mem_append, List.mem_singleton] at stored
    rcases stored with stored | rfl
    · refine integral.rooted _ _ ?_
      rw [LawfulRelation.cells_read (α := α)]
      exact List.mem_map_of_mem stored
    · exact isRooted

/-- A change of some rows keeps a database whole if rows that held different keys still do, and
no row names another row than before. -/
theorem Keeps.updated {wanted : Entry α → Bool} {step : α → α}
    (unlike : database.IsIntegral → ∀ columns ∈ database.catalog.uniqueKeys (Relation.table α),
      AreUnlike columns ((Relation.read database : Table α).entries.map fun entry =>
        Relation.cell (if wanted entry then step entry.row else entry.row)))
    (same : ∀ row, ∀ key ∈ (Relation.table α).definition.foreignKeys,
      Relation.cell (step row) key.column = Relation.cell row key.column) :
    database.Keeps (database.updated wanted step) := by
  have rows (entry : Entry α) :
      (if wanted entry then { entry with row := step entry.row } else entry).row =
        if wanted entry then step entry.row else entry.row := by
    split <;> rfl
  refine Keeps.write ?_ ?_ ?_
  · intro id there
    simp only [Table.has, Table.entries_update, List.any_map, List.any_eq_true,
      Function.comp_apply, decide_eq_true_eq] at there ⊢
    obtain ⟨entry, stored, isId⟩ := there
    refine ⟨entry, stored, ?_⟩
    split <;> exact isId
  · intro integral columns unique
    rw [Table.entries_update, List.map_map]
    simpa only [Function.comp_def, rows] using unlike integral columns unique
  · intro integral entry stored key isKey id names
    rw [Table.entries_update, List.mem_map] at stored
    obtain ⟨old, stored, rfl⟩ := stored
    have isRooted : database.IsRooted (Relation.table α) (Relation.cell old.row) := by
      refine integral.rooted _ _ ?_
      rw [LawfulRelation.cells_read (α := α)]
      exact List.mem_map_of_mem stored
    refine isRooted key isKey id ?_
    rw [rows] at names
    split at names
    · rwa [same old.row key isKey] at names
    · exact names

/-- A change of columns that identify nothing keeps a database whole. -/
theorem Keeps.updated_of_identifying {wanted : Entry α → Bool} {step : α → α}
    (same : ∀ row, ∀ column ∈ (Relation.table α).identifying,
      Relation.cell (step row) column = Relation.cell row column) :
    database.Keeps (database.updated wanted step) := by
  refine Keeps.updated ?_ fun row key isKey =>
    same row key.column (Schema.identifying_of_foreignKeys _ key isKey)
  intro integral columns unique
  have old := integral.unlike _ columns unique
  rw [LawfulRelation.cells_read (α := α), AreUnlike, List.pairwise_map] at old
  have held (entry : Entry α) :
      keyIn columns (Relation.cell (if wanted entry then step entry.row else entry.row)) =
        keyIn columns (Relation.cell entry.row) := by
    obtain ⟨index, isIndex, ofTable, rfl⟩ := integral.identifying unique
    refine keyIn_congr fun column isColumn => ?_
    have identifies := Schema.identifying_of_uniqueIndexes index isIndex column isColumn
    rw [ofTable] at identifies
    split
    · exact same entry.row column identifies
    · rfl
  rw [AreUnlike, List.pairwise_map]
  simpa only [held] using old

/-- Rows may go where what names them goes as well. -/
theorem Keeps.of_sublist {before after : Database} (catalog : after.catalog = before.catalog)
    (fewer : ∀ table, (after.cells table).Sublist (before.cells table))
    (kept : ∀ table, ∀ held ∈ after.cells table, ∀ key ∈ table.definition.foreignKeys, ∀ id,
      held key.column = .integer id → before.hasRow key.parent id = true →
        after.hasRow key.parent id = true) :
    before.Keeps after := by
  refine ⟨catalog, fun integral => ⟨?_, ?_, ?_⟩⟩
  · rw [catalog]
    exact integral.known
  · intro table columns unique
    rw [catalog] at unique
    exact (integral.unlike table columns unique).sublist (fewer table)
  · intro table held stored key isKey id names
    exact kept table held stored key isKey id names
      (integral.rooted table held ((fewer table).subset stored) key isKey id names)

/-- Removing accounts with what they own keeps a database whole. -/
theorem Keeps.eraseAccounts (database : Database) (gone : Int → Bool) :
    database.Keeps (database.eraseAccounts gone) := by
  refine Keeps.of_sublist rfl (fun table => ?_) (fun table => ?_)
  · cases table <;> simp [Database.eraseAccounts, cells, List.filter_sublist, List.Sublist.map]
  · cases table <;> simp [Database.eraseAccounts, cells, TableName.definition, hasRow]
    case tokens | replies | watches =>
      rintro _ entry _ stays rfl id names there
      cases names
      exact Table.has_keep there stays

/-- Removing descriptors with what names them keeps a database whole. -/
theorem Keeps.eraseDescriptors (database : Database) (gone : Int → Bool) :
    database.Keeps (database.eraseDescriptors gone) := by
  refine Keeps.of_sublist rfl (fun table => ?_) (fun table => ?_)
  · cases table <;> simp [Database.eraseDescriptors, cells, List.filter_sublist, List.Sublist.map]
  · cases table <;> simp [Database.eraseDescriptors, cells, TableName.definition, hasRow]
    case posts | watches =>
      rintro _ entry _ stays rfl id names there
      cases names
      exact Table.has_keep there stays
    case replies =>
      rintro _ entry _ stays replyStays rfl
      constructor
      · intro id names there
        cases names
        exact Table.has_keep there stays
      · intro id names there
        cases names
        exact Table.has_keep there replyStays

/-- Removing threads after their descriptors keeps a database whole. -/
theorem Keeps.eraseThreads (database : Database) (gone : Int → Bool) :
    database.Keeps (database.eraseThreads gone) := by
  let lost (id : Int) : Bool :=
    database.descriptors.entries.any fun entry => entry.id = id && gone entry.row.thread
  refine (Keeps.eraseDescriptors database lost).trans ?_
  refine Keeps.of_sublist rfl (fun table => ?_) (fun table => ?_)
  · cases table <;>
      simp [Database.eraseThreads, Database.eraseDescriptors, cells, lost, List.filter_sublist,
        List.Sublist.map]
  · cases table <;>
      simp [Database.eraseThreads, Database.eraseDescriptors, cells, TableName.definition, hasRow,
        lost]
    case descriptors =>
      rintro _ entry stored stays rfl id names there
      cases names
      exact Table.has_keep there (stays entry stored rfl)

/-- Removing rows of any table with what names them keeps a database whole. -/
theorem Keeps.erase (database : Database) (table : TableName) (gone : Int → Bool) :
    database.Keeps (database.erase table gone) := by
  cases table with
  | position => exact Keeps.refl database
  | accounts => exact Keeps.eraseAccounts database gone
  | threads => exact Keeps.eraseThreads database gone
  | descriptors => exact Keeps.eraseDescriptors database gone
  | _ =>
      -- Nothing names a row of the other tables.
      refine Keeps.of_sublist rfl (fun table => ?_) (fun table => ?_) <;> cases table <;>
        simp [Database.erase, cells, TableName.definition, hasRow, List.filter_sublist,
          List.Sublist.map]

end Database

end Lookout
