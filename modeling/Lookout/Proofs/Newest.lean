import Lookout.Proofs.Reachability
import Mathlib.Data.List.Nodup
import Mathlib.Data.List.Pairwise

/-!
# Databases of the newest revision

A database of the newest revision is whole and has every table, and its natural keys tell its
rows apart. Whatever is reached at that revision is such a database, and requests keep it one.
-/

namespace Lookout

open Operation Store
open Schema (Catalog Column Revision TableName)

variable {α : Type} [Relation α] [LawfulRelation α] {database : Database}

/-- The only row of a kind is the one that is found. -/
theorem Store.Table.find?_of_unique {α : Type} {table : Table α} {wanted : Entry α → Bool}
    {entry : Entry α} (stored : entry ∈ table.entries) (isWanted : wanted entry = true)
    (unique : ∀ other ∈ table.entries, wanted other = true → other = entry) :
    table.find? wanted = some entry := by
  cases found : table.find? wanted with
  | none => exact absurd isWanted (List.find?_eq_none.mp found entry stored)
  | some other =>
      obtain ⟨isOther, isKind⟩ := Table.of_find? found
      rw [unique other isOther isKind]

/-- Rows of a kind whose numbers are all listed are as many as the listed numbers that are
theirs. -/
theorem Store.Table.count_eq_countP {α : Type} {table : Table α} {wanted : Entry α → Bool}
    {ids : List Int} (distinct : ids.Nodup)
    (listed : ∀ entry ∈ table.entries, wanted entry = true → entry.id ∈ ids) :
    table.count wanted =
      ids.countP fun id => (table.select wanted).any fun entry => entry.id = id := by
  have numbers : ((table.select wanted).map (·.id)).Nodup :=
    List.pairwise_map.mpr ((table.ascending.filter _).imp fun below => Int.ne_of_lt below)
  have same : ((table.select wanted).map (·.id)).Perm
      (ids.filter fun id => (table.select wanted).any fun entry => entry.id = id) := by
    apply (List.perm_ext_iff_of_nodup numbers (distinct.filter _)).mpr
    intro id
    simp only [List.mem_map, List.mem_filter, List.any_eq_true, decide_eq_true_eq]
    constructor
    · rintro ⟨entry, isOne, rfl⟩
      obtain ⟨stored, isWanted⟩ := List.mem_filter.mp isOne
      exact ⟨listed entry stored isWanted, entry, isOne, rfl⟩
    · rintro ⟨-, isOne⟩
      exact isOne
  calc table.count wanted
      = ((table.select wanted).map (·.id)).length := by
        rw [List.length_map, count, select, List.countP_eq_length_filter]
    _ = ids.countP fun id => (table.select wanted).any fun entry => entry.id = id :=
        same.length_eq.trans List.countP_eq_length_filter.symm

/-- Nothing is added where a row is found that is like the one that was to be put. -/
theorem Operation.ends_addUnlessAlike_of_found {α : Type} [Relation α] {context : Context}
    {draws : Draws} {answers : Int × Bool → Session → Prop} {fails : Failure → Session → Prop}
    {columns : List Column} {row : α} {entry : Entry α}
    (found : (Relation.read database : Table α).find?
      (fun other => Relation.alike columns row other.row) = some entry) :
    (addUnlessAlike columns row).Ends context { saved := database, current := database, draws }
        answers fails ↔
      answers (entry.id, false) { saved := database, current := database, draws } := by
  simp only [addUnlessAlike, ends_bind, ends_rows, found, ends_pure]

namespace Database

/-- Rows of a whole database that are alike in a unique key are the same row. -/
theorem IsIntegral.eq_of_alike (integral : database.IsIntegral) {columns : List Column}
    (unique : columns ∈ database.catalog.uniqueKeys (Relation.table α)) {left right : Entry α}
    (leftStored : left ∈ (Relation.read database : Table α).entries)
    (rightStored : right ∈ (Relation.read database : Table α).entries)
    (alike : Relation.alike columns left.row right.row = true) : left = right := by
  obtain ⟨key, ofLeft, ofRight⟩ := Relation.alike_iff.mp alike
  have unlike := integral.unlike _ columns unique
  rw [LawfulRelation.cells_read (α := α), AreUnlike, List.pairwise_map] at unlike
  by_contra different
  have : Std.Symm fun left right : Entry α => ∀ key,
      keyIn columns (Relation.cell left.row) = some key →
        keyIn columns (Relation.cell right.row) ≠ some key :=
    ⟨fun _ _ apart key ofRight ofLeft => apart key ofLeft ofRight⟩
  exact unlike.forall leftStored rightStored different key ofLeft ofRight

/-- A database of the newest revision: it is whole, and it has the tables and indexes of that
revision. -/
structure IsNewest (database : Database) : Prop where
  integral : database.IsIntegral
  alike : database.catalog.Alike (.atPosition (some .invites))

/-- What is reached at the newest revision is a database of that revision. -/
theorem Reached.isNewest (reached : database.Reached)
    (newest : database.position = some .invites) : database.IsNewest := by
  obtain ⟨orderly, placed⟩ := reached.isSettled
  rcases placed with ⟨absent, -⟩ | isAt
  · rw [newest] at absent
    cases absent
  · exact ⟨orderly.integral, newest ▸ isAt.catalog⟩

theorem isNewest_atRevision (appliedOn : Time.Stamp) : (atRevision .invites appliedOn).IsNewest :=
  ⟨isIntegral_atRevision .invites appliedOn, .refl _⟩

namespace IsNewest

/-- Turns leave the revision alone. -/
theorem outcome (newest : database.IsNewest) (turn : Turn) :
    (turn.outcome database).database.IsNewest := by
  have keeps := (turn.writes database).keeps
  exact ⟨keeps.integral newest.integral, keeps.catalog ▸ newest.alike⟩

theorem after (newest : database.IsNewest) (turns : List Turn) :
    (database.after turns).IsNewest :=
  after_of_kept (fun turn _ newest => newest.outcome turn) newest turns

/-- Every table exists. -/
theorem hasTable (newest : database.IsNewest) (table : TableName) :
    database.catalog.hasTable table = true := by
  rw [newest.alike.hasTable]
  cases table <;> decide

@[simp] theorem missing?_eq_none (newest : database.IsNewest) (tables : List TableName) :
    database.missing? tables = none := by
  simp [missing?, newest.hasTable]

/-- Nothing is in the way of an insertion that ignores conflicts in one of the unique keys. -/
theorem obstacle?_eq_none (newest : database.IsNewest) {table : TableName} {key : List Column}
    (unique : key ∈ Revision.invites.catalog.uniqueKeys table) :
    database.obstacle? table (some key) = none := by
  have known : key ∈ database.catalog.uniqueKeys table := newest.alike.mem_uniqueKeys.mpr unique
  simp [obstacle?, newest, known]

/-- A table has no other unique keys than at that revision. -/
theorem only_key (newest : database.IsNewest) {table : TableName} {key : List Column}
    (only : ∀ columns ∈ Revision.invites.catalog.uniqueKeys table, columns = key) :
    ∀ columns ∈ database.catalog.uniqueKeys table, columns = key :=
  fun columns unique => only columns (newest.alike.mem_uniqueKeys.mp unique)

/-- Rows that are alike in one of the unique keys are the same row. -/
theorem eq_of_alike (newest : database.IsNewest) {columns : List Column}
    (unique : columns ∈ Revision.invites.catalog.uniqueKeys (Relation.table α))
    {left right : Entry α} (leftStored : left ∈ (Relation.read database : Table α).entries)
    (rightStored : right ∈ (Relation.read database : Table α).entries)
    (alike : Relation.alike columns left.row right.row = true) : left = right :=
  newest.integral.eq_of_alike (newest.alike.mem_uniqueKeys.mpr unique) leftStored rightStored alike

/-- What is looked for in a unique key is the row that has it. -/
theorem find?_alike (newest : database.IsNewest) {columns : List Column}
    (unique : columns ∈ Revision.invites.catalog.uniqueKeys (Relation.table α)) {row : α}
    {entry : Entry α} (stored : entry ∈ (Relation.read database : Table α).entries)
    (isAlike : Relation.alike columns row entry.row = true) :
    (Relation.read database : Table α).find? (fun other => Relation.alike columns row other.row) =
      some entry := by
  refine Table.find?_of_unique stored isAlike fun other isOther likewise => ?_
  obtain ⟨key, ofRow, ofEntry⟩ := Relation.alike_iff.mp isAlike
  obtain ⟨_, again, ofOther⟩ := Relation.alike_iff.mp likewise
  cases again.symm.trans ofRow
  exact newest.eq_of_alike unique isOther stored (Relation.alike_iff.mpr ⟨key, ofOther, ofEntry⟩)

end IsNewest

end Database

end Lookout
