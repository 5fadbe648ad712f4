import Lookout.Proofs.SchemaChanges

/-!
# Orderly databases

In an orderly database rows are in tables that exist, no two of them are alike in a unique key,
and every row that another one names exists. Whatever services write keeps a database orderly,
and so does every schema change that the store makes.
-/

namespace Lookout

open Schema (Catalog Change Column Index Revision TableName)
open Store

/-- Rows that are unlike in the columns of a key are unlike in more columns. -/
theorem AreUnlike.mono {columns more : List Column} {rows : List (Column → Cell)}
    (unlike : AreUnlike columns rows) (fewer : columns ⊆ more) : AreUnlike more rows := by
  refine List.Pairwise.imp ?_ unlike
  intro left right unlike key ofLeft ofRight
  simp only [keyIn, List.contains_eq_mem, decide_eq_true_eq, Option.ite_none_left_eq_some,
    Option.some.injEq] at ofLeft ofRight
  have agree : ∀ column ∈ columns, left column = right column := fun column isColumn =>
    List.map_inj_left.mp (ofLeft.2.trans ofRight.2.symm) column (fewer isColumn)
  have held : keyIn columns left = some (columns.map left) := by
    refine if_neg ?_
    rw [List.contains_eq_mem, decide_eq_true_eq]
    exact fun empty => ofLeft.1 (List.map_subset left fewer empty)
  exact unlike _ held ((keyIn_congr agree).symm.trans held)

namespace Migration

variable {α : Type} [Relation α]

/-- Rows have no duplicates in the columns of an index where they are unlike. -/
theorem hasDuplicate_eq_false_iff {columns : List Column} {entries : List (Entry α)} :
    hasDuplicate columns entries = false ↔
      AreUnlike columns (entries.map fun entry => Relation.cell entry.row) := by
  rw [AreUnlike, List.pairwise_map]
  induction entries with
  | nil => simp [hasDuplicate]
  | cons entry rest ih =>
      rw [hasDuplicate, Bool.or_eq_false_iff, List.any_eq_false, ih, List.pairwise_cons]
      refine and_congr_left fun _ => forall₂_congr fun other _ => ?_
      rw [Relation.alike_iff]
      constructor
      · exact fun apart key ofEntry ofOther => apart ⟨key, ofEntry, ofOther⟩
      · rintro apart ⟨key, ofEntry, ofOther⟩
        exact apart key ofEntry ofOther

/-- Rows allow a unique index where they are unlike in its columns. -/
theorem forbids_eq_false_iff {database : Database} {table : TableName} {columns : List Column} :
    forbids database table columns = false ↔ AreUnlike columns (database.cells table) := by
  cases table with
  | position => exact ⟨fun _ => .nil, fun _ => rfl⟩
  | _ => exact hasDuplicate_eq_false_iff

end Migration

namespace Database

/-- Tables that do not exist have no rows. -/
def IsTidy (database : Database) : Prop :=
  ∀ table, database.catalog.hasTable table = false → database.cells table = []

/-- Rows are in tables that exist, unlike in every unique key, and name rows that exist. -/
structure IsOrderly (database : Database) : Prop where
  tidy : database.IsTidy
  integral : database.IsIntegral

@[simp] theorem cells_under (database : Database) (catalog : Catalog) (table : TableName) :
    (database.under catalog).cells table = database.cells table := by
  cases table <;> rfl

@[simp] theorem hasRow_under (database : Database) (catalog : Catalog) (table : TableName)
    (id : Int) : (database.under catalog).hasRow table id = database.hasRow table id := by
  cases table <;> rfl

/-- Removing rows leaves some of the rows of each table. -/
theorem cells_erase_sublist (database : Database) (table other : TableName) (gone : Int → Bool) :
    ((database.erase table gone).cells other).Sublist (database.cells other) := by
  cases table <;> cases other <;>
    simp [erase, eraseAccounts, eraseDescriptors, eraseThreads, cells, List.filter_sublist,
      List.Sublist.map]

/-- Removing every row of a table leaves none. -/
theorem cells_erase_all (database : Database) (table : TableName) :
    (database.erase table fun _ => true).cells table = [] := by
  cases table <;> simp [erase, eraseAccounts, eraseDescriptors, eraseThreads, cells]

/-- A database without rows of the services is orderly. -/
theorem isOrderly_atRevision (revision : Revision) (appliedOn : Time.Stamp) :
    (atRevision revision appliedOn).IsOrderly where
  tidy table missing := by
    cases table with
    | ledger => cases revision <;> cases missing
    | _ => rfl
  integral := isIntegral_atRevision revision appliedOn

/-- So is a database without anything. -/
theorem isOrderly_empty : ({} : Database).IsOrderly where
  tidy table _ := by cases table <;> rfl
  integral :=
    { known := fun _ stored => absurd stored List.not_mem_nil
      unlike := fun _ _ unique => absurd unique List.not_mem_nil
      rooted := fun table _ stored => by cases table <;> cases stored }

/-- Changing rows puts none into a table that does not exist. -/
theorem IsTidy.updated {α : Type} [Relation α] [LawfulRelation α] {database : Database}
    (tidy : database.IsTidy) (wanted : Entry α → Bool) (step : α → α) :
    (database.updated wanted step).IsTidy := by
  intro table missing
  rw [Database.updated, LawfulRelation.catalog_write] at missing
  by_cases own : table = Relation.table α
  · subst own
    have empty := tidy _ missing
    rw [LawfulRelation.cells_read, List.map_eq_nil_iff] at empty
    rw [LawfulRelation.cells_read, Database.updated, LawfulRelation.read_write,
      Table.entries_update, empty]
    rfl
  · rw [← (Agree.updated own).cells]
    exact tidy table missing

/-- Neither does removing rows. -/
theorem IsTidy.erase {database : Database} (tidy : database.IsTidy) (table : TableName)
    (gone : Int → Bool) : (database.erase table gone).IsTidy := by
  intro other missing
  rw [(Keeps.erase database table gone).catalog] at missing
  have fewer := cells_erase_sublist database table other gone
  rw [tidy other missing] at fewer
  exact List.sublist_nil.mp fewer

/-- Nor does another catalog with at least the same tables. -/
theorem IsTidy.under {database : Database} {catalog : Catalog} (tidy : database.IsTidy)
    (more : ∀ table, catalog.hasTable table = false → database.catalog.hasTable table = false) :
    (database.under catalog).IsTidy := by
  intro table missing
  rw [cells_under]
  exact tidy table (more table missing)

/-- Whatever services write, they write into tables that exist. -/
theorem Writes.isTidy {before after : Database} {tables : List TableName}
    (writes : before.Writes tables after) (tidy : before.IsTidy) : after.IsTidy := by
  induction writes with
  | refl database => exact tidy
  | @added α _ _ before row written present admitted =>
      intro table missing
      rw [Database.added, LawfulRelation.catalog_write] at missing
      have other : table ≠ Relation.table α := by
        rintro rfl
        rw [present] at missing
        cases missing
      rw [← (Agree.added row other).cells]
      exact tidy table missing
  | updated written same => exact tidy.updated _ _
  | replaced written free found => exact tidy.updated _ _
  | erased written => exact tidy.erase _ _
  | trans first second ihFirst ihSecond => exact ihSecond (ihFirst tidy)

/-- What services write keeps a database orderly. -/
theorem Writes.isOrderly {before after : Database} {tables : List TableName}
    (writes : before.Writes tables after) (orderly : before.IsOrderly) : after.IsOrderly :=
  ⟨writes.isTidy orderly.tidy, writes.keeps.integral orderly.integral⟩

end Database

namespace Schema

/-- Whether a change makes no unique index but one of those of the revisions. -/
def Change.isKnown : Change → Bool
  | .createIndex index => !index.unique || uniqueIndexes.contains index
  | _ => true

/-- No unique index is over the ledger. -/
theorem table_ne_of_uniqueIndexes : ∀ index ∈ uniqueIndexes, index.table ≠ .ledger := by
  decide

/-- No row names a line of the ledger or the position. -/
theorem parent_ne_of_foreignKeys (table : TableName) :
    ∀ key ∈ table.definition.foreignKeys, key.parent ≠ .position ∧ key.parent ≠ .ledger := by
  cases table <;> decide

/-- Revisions make no other unique indexes, whichever way they go. -/
theorem isKnown_of_mem {revision : Revision} {step : Change}
    (made : step ∈ revision.upgrade ∨ step ∈ revision.downgrade) : step.isKnown = true := by
  have known : (revision.upgrade ++ revision.downgrade).all Change.isKnown = true := by
    cases revision <;> decide
  exact List.all_eq_true.mp known step (List.mem_append.mpr made)

end Schema

namespace Database

/-- Another catalog leaves a database whole where its unique indexes are old ones, or known ones
in whose columns rows are unlike. -/
theorem IsIntegral.under {database : Database} {catalog : Catalog} (integral : database.IsIntegral)
    (unlike : ∀ index ∈ catalog.indexes, index.unique = true →
      index ∈ database.catalog.indexes ∨
        index ∈ Schema.uniqueIndexes ∧ AreUnlike index.columns (database.cells index.table)) :
    (database.under catalog).IsIntegral where
  known index stored isUnique := by
    rcases unlike index stored isUnique with old | ⟨known, -⟩
    · exact integral.known index old isUnique
    · exact known
  unlike table columns unique := by
    change columns ∈ catalog.uniqueKeys table at unique
    simp only [Catalog.uniqueKeys, Catalog.indexesOf, List.mem_map, List.mem_filter,
      decide_eq_true_eq] at unique
    obtain ⟨index, ⟨⟨stored, rfl⟩, isUnique⟩, rfl⟩ := unique
    rw [cells_under]
    rcases unlike index stored isUnique with old | ⟨-, unlike⟩
    · refine integral.unlike index.table index.columns ?_
      simp only [Catalog.uniqueKeys, Catalog.indexesOf, List.mem_map, List.mem_filter,
        decide_eq_true_eq]
      exact ⟨index, ⟨⟨old, rfl⟩, isUnique⟩, rfl⟩
    · exact unlike
  rooted table held stored key isKey id names := by
    rw [cells_under] at stored
    rw [hasRow_under]
    exact integral.rooted table held stored key isKey id names

/-- A schema change that the store makes keeps a database orderly. -/
theorem IsOrderly.altered {before after : Database} {step : Change} (orderly : before.IsOrderly)
    (known : step.isKnown = true) (done : Migration.altered before step = .ok after) :
    after.IsOrderly := by
  obtain ⟨allowed, same⟩ := Migration.under_of_altered done
  have applied := Migration.apply_of_altered done
  rw [same]
  generalize after.catalog = catalog at applied
  cases step with
  | createTable table =>
      simp only [Catalog.apply] at applied
      split at applied <;> cases applied
      refine ⟨orderly.tidy.under fun other missing => ?_,
        orderly.integral.under fun _ stored _ => .inl stored⟩
      have fewer : (before.catalog.tables ++ [table]).contains other = false := missing
      rw [List.contains_append, Bool.or_eq_false_iff] at fewer
      exact fewer.1
  | dropTable table =>
      simp only [Catalog.apply] at applied
      split at applied <;> cases applied
      have keeps := Keeps.erase before table fun _ => true
      constructor
      · intro other missing
        rw [cells_under]
        by_cases dropped : other = table
        · subst dropped
          exact cells_erase_all before other
        · have lost : other ∉ before.catalog.tables.filter (· ≠ table) := by
            simpa [Catalog.hasTable, under] using missing
          refine orderly.tidy.erase table _ other ?_
          rw [keeps.catalog, Catalog.hasTable, List.contains_eq_mem, decide_eq_false_iff_not]
          exact fun stored => lost (List.mem_filter.mpr ⟨stored, decide_eq_true dropped⟩)
      · refine (keeps.integral orderly.integral).under fun index stored _ => .inl ?_
        rw [keeps.catalog]
        exact (List.mem_filter.mp stored).1
  | createIndex index =>
      simp only [Catalog.apply] at applied
      split at applied
      · split at applied <;> cases applied
        refine ⟨orderly.tidy.under fun _ missing => missing,
          orderly.integral.under fun other stored isUnique => ?_⟩
        rcases List.mem_append.mp stored with old | isNew
        · exact .inl old
        · obtain rfl := List.mem_singleton.mp isNew
          simp only [Change.isKnown, isUnique, Bool.not_true, Bool.false_or,
            List.contains_eq_mem, decide_eq_true_eq] at known
          simp only [Migration.isForbidden, isUnique, Bool.true_and,
            Migration.forbids_eq_false_iff] at allowed
          exact .inr ⟨known, allowed⟩
      · cases applied
  | dropIndex name =>
      simp only [Catalog.apply] at applied
      split at applied <;> cases applied
      exact ⟨orderly.tidy.under fun _ missing => missing,
        orderly.integral.under fun _ stored _ => .inl (List.mem_filter.mp stored).1⟩

/-- The ledger and the position are no matter of order, as long as there is a ledger. -/
theorem IsOrderly.of_agree {before after : Database} (orderly : before.IsOrderly)
    (catalog : after.catalog = before.catalog)
    (same : ∀ table, table ≠ .position → table ≠ .ledger → before.Agree after table)
    (lines : before.catalog.hasTable .ledger = true ∨ before.ledger = after.ledger) :
    after.IsOrderly := by
  have cells (table : TableName) (other : table ≠ .ledger) :
      after.cells table = before.cells table := by
    by_cases isPosition : table = .position
    · subst isPosition
      rfl
    · exact (same table isPosition other).cells.symm
  have noKeys : before.catalog.uniqueKeys .ledger = [] := by
    refine List.eq_nil_iff_forall_not_mem.mpr fun columns unique => ?_
    obtain ⟨index, isIndex, ofTable, -⟩ := orderly.integral.identifying unique
    exact Schema.table_ne_of_uniqueIndexes index isIndex ofTable
  constructor
  · intro table missing
    rw [catalog] at missing
    by_cases isLedger : table = .ledger
    · subst isLedger
      rcases lines with present | lines
      · rw [present] at missing
        cases missing
      · have empty := orderly.tidy _ missing
        unfold Database.cells at empty ⊢
        rwa [← lines]
    · rw [cells table isLedger]
      exact orderly.tidy table missing
  · refine ⟨catalog ▸ orderly.integral.known, ?_, ?_⟩
    · intro table columns unique
      rw [catalog] at unique
      by_cases isLedger : table = .ledger
      · subst isLedger
        rw [noKeys] at unique
        cases unique
      · rw [cells table isLedger]
        exact orderly.integral.unlike table columns unique
    · intro table held stored key isKey id names
      by_cases isLedger : table = .ledger
      · subst isLedger
        cases isKey
      · rw [cells table isLedger] at stored
        have there := orderly.integral.rooted table held stored key isKey id names
        have parent := Schema.parent_ne_of_foreignKeys table key isKey
        rwa [← (same key.parent parent.1 parent.2).hasRow]

end Database

end Lookout
