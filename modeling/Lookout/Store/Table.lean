/-!
# Tables

Rows under ascending numbers. A new row gets the number after the largest one that is
in use, so the number of a removed last row is handed out again. That numbers ascend is
part of the type, and with it that no two rows share one.
-/

namespace Lookout.Store

/-- A row with its number. -/
structure Entry (α : Type) where
  id : Int
  row : α
  deriving Repr, DecidableEq

/-- Rows under ascending numbers. -/
structure Table (α : Type) where
  entries : List (Entry α)
  ascending : entries.Pairwise fun earlier later => earlier.id < later.id

variable {α : Type}

namespace Table

/-- A table without rows. -/
def empty : Table α := ⟨[], .nil⟩

instance : Inhabited (Table α) := ⟨empty⟩

/-- Tables with the same entries are the same. -/
@[ext]
theorem ext {left right : Table α} (same : left.entries = right.entries) : left = right := by
  cases left
  cases right
  simp_all

/-- The number for the next row. Numbers do not run out here. Those of the store have 64 bits,
and above the last of them it gives any number that is free. -/
def nextId (table : Table α) : Int :=
  match table.entries.getLast? with
  | some entry => entry.id + 1
  | none => 1

/-- Every number in use is below the next one. -/
theorem id_lt_nextId (table : Table α) {entry : Entry α} (stored : entry ∈ table.entries) :
    entry.id < table.nextId := by
  obtain ⟨entries, ascending⟩ := table
  unfold nextId
  rcases entries.eq_nil_or_concat with rfl | ⟨front, last, rfl⟩
  · simp at stored
  · simp only [List.concat_eq_append, List.getLast?_append, List.getLast?_singleton,
      Option.some_or] at stored ascending ⊢
    rw [List.pairwise_append] at ascending
    rcases List.mem_append.1 stored with inFront | isLast
    · have below := ascending.2.2 entry inFront last (by simp)
      omega
    · simp only [List.mem_singleton] at isLast
      subst isLast
      omega

/-- Add a row under the next number. -/
def add (table : Table α) (row : α) : Table α where
  entries := table.entries ++ [⟨table.nextId, row⟩]
  ascending := by
    rw [List.pairwise_append]
    refine ⟨table.ascending, by simp, fun entry stored last isLast => ?_⟩
    simp only [List.mem_singleton] at isLast
    subst isLast
    exact table.id_lt_nextId stored

/-- The row under a number. -/
def get? (table : Table α) (id : Int) : Option (Entry α) :=
  table.entries.find? fun entry => entry.id = id

/-- The first row of a kind. -/
def find? (table : Table α) (wanted : Entry α → Bool) : Option (Entry α) :=
  table.entries.find? wanted

/-- The rows of a kind, in the order of their numbers. -/
def select (table : Table α) (wanted : Entry α → Bool) : List (Entry α) :=
  table.entries.filter wanted

/-- How many rows are of a kind. -/
def count (table : Table α) (wanted : Entry α → Bool) : Nat :=
  table.entries.countP wanted

/-- Whether a number is in use. -/
def has (table : Table α) (id : Int) : Bool :=
  table.entries.any fun entry => entry.id = id

/-- Keep the rows of a kind. -/
def keep (table : Table α) (wanted : Entry α → Bool) : Table α where
  entries := table.entries.filter wanted
  ascending := table.ascending.filter _

/-- Change the rows of a kind, which keep their numbers. -/
def update (table : Table α) (wanted : Entry α → Bool) (change : α → α) : Table α where
  entries := table.entries.map fun entry =>
    if wanted entry then { entry with row := change entry.row } else entry
  ascending := by
    rw [List.pairwise_map]
    refine table.ascending.imp fun {earlier later} below => ?_
    split <;> split <;> exact below

/-- Change every row. -/
def map (table : Table α) (change : α → α) : Table α :=
  table.update (fun _ => true) change

/-- Put a row under a number of its own, in place of the one that may be there. -/
def put (table : Table α) (id : Int) (row : α) : Table α where
  entries := table.entries.filter (fun entry => entry.id < id) ++
    ⟨id, row⟩ :: table.entries.filter (fun entry => id < entry.id)
  ascending := by
    simp only [List.pairwise_append, List.pairwise_cons, List.mem_cons, List.mem_filter,
      decide_eq_true_eq]
    refine ⟨table.ascending.filter _, ⟨fun entry above => above.2, table.ascending.filter _⟩, ?_⟩
    rintro earlier ⟨_, below⟩ later (rfl | ⟨_, above⟩)
    · exact below
    · exact Int.lt_trans below above

/-- Remove the row under a number. -/
def erase (table : Table α) (id : Int) : Table α :=
  table.keep fun entry => entry.id ≠ id

/-- Put the row under a number under another one. -/
def renumber (table : Table α) (old new : Int) : Table α :=
  match table.get? old with
  | some entry => (table.erase old).put new entry.row
  | none => table

/-- The largest number in use. -/
def lastId? (table : Table α) : Option Int :=
  table.entries.getLast?.map (·.id)

/-- A new row comes last. -/
@[simp]
theorem entries_add (table : Table α) (row : α) :
    (table.add row).entries = table.entries ++ [⟨table.nextId, row⟩] := rfl

/-- What is kept are the rows of the kind. -/
@[simp]
theorem entries_keep (table : Table α) (wanted : Entry α → Bool) :
    (table.keep wanted).entries = table.entries.filter wanted := rfl

/-- An update goes through the rows one by one. -/
@[simp]
theorem entries_update (table : Table α) (wanted : Entry α → Bool) (change : α → α) :
    (table.update wanted change).entries = table.entries.map fun entry =>
      if wanted entry then { entry with row := change entry.row } else entry := rfl

/-- A number names at most one row. -/
theorem eq_of_id_eq (table : Table α) {left right : Entry α} (leftStored : left ∈ table.entries)
    (rightStored : right ∈ table.entries) (same : left.id = right.id) : left = right := by
  obtain ⟨entries, ascending⟩ := table
  induction ascending with
  | nil => simp at leftStored
  | cons below _ inductionHypothesis =>
      simp only [List.mem_cons] at leftStored rightStored
      rcases leftStored with rfl | leftStored <;> rcases rightStored with rfl | rightStored
      · rfl
      · have := below right rightStored
        omega
      · have := below left leftStored
        omega
      · exact inductionHypothesis leftStored rightStored

end Table

end Lookout.Store
