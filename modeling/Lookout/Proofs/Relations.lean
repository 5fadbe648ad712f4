import Lookout.Store.Relation

/-!
# Laws of relations

A relation reads and writes one table of a database and leaves the others alone. The rows of
every table have one untyped view, column by column, in which statements about all the tables
are said once.
-/

namespace Lookout

open Schema (Column TableName)
open Store

/-- What the rows of a table hold, column by column. -/
def Database.cells (database : Database) : TableName → List (Column → Cell)
  | .position => []
  | .ledger => database.ledger.entries.map fun entry => Relation.cell entry.row
  | .journal => database.journal.entries.map fun entry => Relation.cell entry.row
  | .accounts => database.accounts.entries.map fun entry => Relation.cell entry.row
  | .tokens => database.tokens.entries.map fun entry => Relation.cell entry.row
  | .invites => database.invites.entries.map fun entry => Relation.cell entry.row
  | .threads => database.threads.entries.map fun entry => Relation.cell entry.row
  | .descriptors => database.descriptors.entries.map fun entry => Relation.cell entry.row
  | .posts => database.posts.entries.map fun entry => Relation.cell entry.row
  | .replies => database.replies.entries.map fun entry => Relation.cell entry.row
  | .watches => database.watches.entries.map fun entry => Relation.cell entry.row

/-- Whether two databases hold the same in a table. -/
def Database.Agree (left right : Database) : TableName → Prop
  | .position => left.position = right.position
  | .ledger => left.ledger = right.ledger
  | .journal => left.journal = right.journal
  | .accounts => left.accounts = right.accounts
  | .tokens => left.tokens = right.tokens
  | .invites => left.invites = right.invites
  | .threads => left.threads = right.threads
  | .descriptors => left.descriptors = right.descriptors
  | .posts => left.posts = right.posts
  | .replies => left.replies = right.replies
  | .watches => left.watches = right.watches

namespace Database.Agree

variable {first second third : Database} {table : TableName}

theorem refl (database : Database) (table : TableName) : database.Agree database table := by
  cases table <;> rfl

theorem symm (same : first.Agree second table) : second.Agree first table := by
  cases table <;> exact Eq.symm same

theorem trans (left : first.Agree second table) (right : second.Agree third table) :
    first.Agree third table := by
  cases table <;> exact Eq.trans left right

/-- Tables that are the same show the same rows. -/
theorem cells (same : first.Agree second table) : first.cells table = second.cells table := by
  cases table <;> unfold Agree at same <;> simp only [Database.cells, same]

/-- Tables that are the same use the same numbers. -/
theorem hasRow (same : first.Agree second table) (id : Int) :
    first.hasRow table id = second.hasRow table id := by
  cases table <;> unfold Agree at same <;> simp only [Database.hasRow, same]

end Database.Agree

/-- A relation whose table is one of the database's: what is written is read back, the
catalog and the other tables stay, and the untyped views show the same rows. -/
class LawfulRelation (α : Type) [Relation α] : Prop where
  read_write : ∀ (database : Database) (table : Table α),
    Relation.read (Relation.write database table) = table := by intros; rfl
  write_read : ∀ database : Database,
    Relation.write database (Relation.read database : Table α) = database := by intros; rfl
  catalog_write : ∀ (database : Database) (table : Table α),
    (Relation.write database table).catalog = database.catalog := by intros; rfl
  agree_write : ∀ (database : Database) (rows : Table α) (table : TableName),
    table ≠ Relation.table α → database.Agree (Relation.write database rows) table := by
    intro _ _ table other
    cases table <;> first | rfl | exact absurd rfl other
  cells_read : ∀ database : Database,
    database.cells (Relation.table α) =
      (Relation.read database : Table α).entries.map fun entry => Relation.cell entry.row := by
    intros; rfl
  hasRow_read : ∀ (database : Database) (id : Int),
    database.hasRow (Relation.table α) id = (Relation.read database : Table α).has id := by
    intros; rfl

instance : LawfulRelation Account where
instance : LawfulRelation Token where
instance : LawfulRelation Invite where
instance : LawfulRelation Thread where
instance : LawfulRelation Descriptor where
instance : LawfulRelation Post where
instance : LawfulRelation Reply where
instance : LawfulRelation Watch where
instance : LawfulRelation JournalLine where
instance : LawfulRelation LedgerLine where

attribute [simp] LawfulRelation.read_write LawfulRelation.write_read LawfulRelation.catalog_write

/-- What is found is there and of the kind that was looked for. -/
theorem Store.Table.of_find? {α : Type} {table : Table α} {wanted : Entry α → Bool}
    {entry : Entry α} (found : table.find? wanted = some entry) :
    entry ∈ table.entries ∧ wanted entry = true :=
  ⟨List.mem_of_find?_eq_some found, List.find?_some found⟩

/-- A stored row is the one under its number. -/
theorem Store.Table.get?_of_mem {α : Type} {table : Table α} {entry : Entry α}
    (stored : entry ∈ table.entries) : table.get? entry.id = some entry := by
  cases found : table.get? entry.id with
  | none => exact absurd (decide_eq_true rfl) (List.find?_eq_none.mp found entry stored)
  | some other =>
      obtain ⟨isOther, same⟩ := Table.of_find? found
      rw [table.eq_of_id_eq isOther stored (of_decide_eq_true same)]

/-- A number is in use where a row has it. -/
theorem Store.Table.has_iff {α : Type} {table : Table α} {id : Int} :
    table.has id = true ↔ ∃ entry ∈ table.entries, entry.id = id := by
  simp [Table.has]

/-- The number for the next row is not in use. -/
theorem Store.Table.has_nextId {α : Type} (table : Table α) : table.has table.nextId = false := by
  rw [← Bool.not_eq_true, has_iff]
  rintro ⟨entry, stored, same⟩
  exact Int.ne_of_lt (table.id_lt_nextId stored) same

/-- A number stays in use where it is not among those that go. -/
theorem Store.Table.has_keep {α : Type} {table : Table α} {gone : Int → Bool} {id : Int}
    (there : table.has id = true) (stays : gone id = false) :
    (table.keep fun entry => !gone entry.id).has id = true := by
  simp only [Table.has, Table.entries_keep, List.any_filter, List.any_eq_true, Bool.and_eq_true,
    decide_eq_true_eq, Bool.not_eq_true'] at there ⊢
  obtain ⟨entry, stored, rfl⟩ := there
  exact ⟨entry, stored, stays, rfl⟩

/-- What is counted is there. -/
theorem Store.Table.exists_of_count {α : Type} {table : Table α} {wanted : Entry α → Bool}
    (found : table.count wanted ≠ 0) : ∃ entry ∈ table.entries, wanted entry = true := by
  simpa [Table.count, List.countP_eq_zero] using found

namespace Store.Table

variable {α : Type} {table : Table α} {mine : Entry α → Bool}

/-- Rows of a kind stay where a row of another kind is added. -/
theorem select_add {row : α} (other : mine ⟨table.nextId, row⟩ = false) :
    (table.add row).select mine = table.select mine := by
  simp [select, other]

/-- They stay where rows of other kinds are changed into such rows. -/
theorem select_update {wanted : Entry α → Bool} {step : α → α}
    (other : ∀ entry ∈ table.entries, wanted entry = true →
      mine entry = false ∧ mine { entry with row := step entry.row } = false) :
    (table.update wanted step).select mine = table.select mine := by
  let change (entry : Entry α) : Entry α :=
    if wanted entry then { entry with row := step entry.row } else entry
  -- A row of the kind is not changed, and a row that is changed is not of the kind.
  have sameKind : ∀ entry ∈ table.entries, mine (change entry) = mine entry := by
    intro entry stored
    by_cases isWanted : wanted entry = true
    · obtain ⟨apart, stays⟩ := other entry stored isWanted
      simp only [change, isWanted, if_true, apart, stays]
    · simp only [change, isWanted, if_false, Bool.false_eq_true]
  have sameRow : ∀ entry ∈ table.entries.filter mine, change entry = entry := by
    intro entry isMine
    obtain ⟨stored, isMine⟩ := List.mem_filter.mp isMine
    refine if_neg fun isWanted => ?_
    rw [(other entry stored isWanted).1] at isMine
    cases isMine
  calc (table.update wanted step).select mine
      = (table.entries.filter (mine ∘ change)).map change := List.filter_map
    _ = (table.entries.filter mine).map change :=
        congrArg (List.map change) (List.filter_congr sameKind)
    _ = table.select mine := (List.map_congr_left sameRow).trans (List.map_id _)

/-- They stay where rows of other kinds go. -/
theorem select_keep {wanted : Entry α → Bool}
    (kept : ∀ entry, mine entry = true → wanted entry = true) :
    (table.keep wanted).select mine = table.select mine := by
  simp only [select, entries_keep, List.filter_filter]
  refine List.filter_congr fun entry _ => ?_
  cases isMine : mine entry <;> simp [kept, isMine]

/-- A stored row has the number of a row of a kind where it is of that kind. -/
theorem any_select {wanted : Entry α → Bool} {entry : Entry α} (stored : entry ∈ table.entries) :
    ((table.select wanted).any fun other => other.id = entry.id) = wanted entry := by
  rw [Bool.eq_iff_iff, List.any_eq_true]
  constructor
  · rintro ⟨other, isOne, same⟩
    obtain ⟨isStored, isWanted⟩ := List.mem_filter.mp isOne
    rwa [← table.eq_of_id_eq isStored stored (of_decide_eq_true same)]
  · exact fun isWanted => ⟨entry, List.mem_filter.mpr ⟨stored, isWanted⟩, decide_eq_true rfl⟩

/-- To remove what has the number of a row of a kind is to remove the rows of that kind. -/
theorem keep_others (table : Table α) (wanted : Entry α → Bool) :
    (table.keep fun entry => !(table.select wanted).any fun gone => gone.id = entry.id) =
      table.keep fun entry => !wanted entry := by
  ext1
  exact List.filter_congr fun entry stored => congrArg (!·) (any_select stored)

end Store.Table

namespace Database

variable {α : Type} [Relation α]

/-- A database with one more row. -/
def added (database : Database) (row : α) : Database :=
  Relation.write database ((Relation.read database).add row)

/-- A database with the rows of a kind changed. -/
def updated (database : Database) (wanted : Entry α → Bool) (step : α → α) : Database :=
  Relation.write database ((Relation.read database).update wanted step)

/-- A database without the rows of a kind and without what names them. -/
def erased (database : Database) (wanted : Entry α → Bool) : Database :=
  database.erase (Relation.table α) fun id =>
    ((Relation.read database).select wanted).any fun entry => entry.id = id

variable {database : Database}

/-- Two updates that do the same to every row are the same. -/
theorem updated_congr {wanted others : Entry α → Bool} {step change : α → α}
    (same : ∀ entry ∈ (Relation.read database : Table α).entries,
      (if wanted entry then { entry with row := step entry.row } else entry) =
        if others entry then { entry with row := change entry.row } else entry) :
    database.updated wanted step = database.updated others change := by
  have sameTable : (Relation.read database : Table α).update wanted step =
      (Relation.read database).update others change := by
    ext1
    exact List.map_congr_left same
  rw [updated, updated, sameTable]

variable [LawfulRelation α]

/-- A row is there after an update, changed if it is of the kind. -/
theorem mem_updated {entry : Entry α}
    (stored : entry ∈ (Relation.read database : Table α).entries) (wanted : Entry α → Bool)
    (step : α → α) :
    (if wanted entry then { entry with row := step entry.row } else entry) ∈
      (Relation.read (database.updated wanted step) : Table α).entries := by
  rw [updated, LawfulRelation.read_write]
  exact List.mem_map_of_mem stored

/-- A row is there after another one has been added. -/
theorem mem_added {entry : Entry α}
    (stored : entry ∈ (Relation.read database : Table α).entries) (row : α) :
    entry ∈ (Relation.read (database.added row) : Table α).entries := by
  rw [added, LawfulRelation.read_write]
  exact List.mem_append_left _ stored

/-- An update changes nothing where it changes no row of the kind. -/
theorem updated_self {wanted : Entry α → Bool} {step : α → α}
    (same : ∀ entry ∈ (Relation.read database : Table α).entries, wanted entry = true →
      step entry.row = entry.row) :
    database.updated wanted step = database := by
  have sameTable : (Relation.read database : Table α).update wanted step =
      Relation.read database := by
    ext1
    refine (List.map_congr_left fun entry stored => ?_).trans (List.map_id _)
    split
    · rename_i isWanted
      rw [same entry stored isWanted]
      rfl
    · rfl
  rw [updated, sameTable, LawfulRelation.write_read]

/-- An update changes nothing where no row is of the kind. -/
theorem updated_of_count (database : Database) (wanted : Entry α → Bool) (step : α → α)
    (nothing : (Relation.read database : Table α).count wanted = 0) :
    database.updated wanted step = database := by
  have unwanted : ∀ entry ∈ (Relation.read database : Table α).entries, ¬wanted entry = true := by
    simpa [Table.count, List.countP_eq_zero] using nothing
  exact updated_self fun entry stored isWanted => absurd isWanted (unwanted entry stored)

end Database

namespace Database.Agree

variable {α : Type} [Relation α] [LawfulRelation α] {database : Database} {table : TableName}

/-- Adding a row leaves the other tables alone. -/
theorem added (row : α) (other : table ≠ Relation.table α) :
    database.Agree (database.added row) table :=
  LawfulRelation.agree_write database _ table other

/-- So does changing rows. -/
theorem updated {wanted : Entry α → Bool} {step : α → α} (other : table ≠ Relation.table α) :
    database.Agree (database.updated wanted step) table :=
  LawfulRelation.agree_write database _ table other

end Database.Agree

end Lookout
