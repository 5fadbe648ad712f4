import Lookout.Migration
import Lookout.Proofs.Soundness

/-!
# Schema changes

Changes of tables and indexes made one after the other. Where they fit the schema, only the rows
can forbid one of them. What is saved then depends on the session: changes made before any change
of rows take hold one by one, and later ones wait for the commit.
-/

namespace Lookout

open Operation Store
open Schema (Catalog Change Index IndexName Revision TableName)

namespace Schema.Catalog

/-- Two catalogs list the same tables and indexes, in any order. -/
structure Alike (catalog other : Catalog) : Prop where
  tables : catalog.tables.Perm other.tables
  indexes : catalog.indexes.Perm other.indexes

/-- The catalog of a store at a position, with the table that keeps the position. -/
def atPosition : Option Revision → Catalog
  | none => { tables := [.position] }
  | some revision => { revision.catalog with tables := .position :: revision.catalog.tables }

variable {catalog other after : Catalog} {step : Change}

theorem Alike.refl (catalog : Catalog) : catalog.Alike catalog :=
  ⟨.refl _, .refl _⟩

theorem Alike.trans {last : Catalog} (first : catalog.Alike other) (second : other.Alike last) :
    catalog.Alike last :=
  ⟨first.tables.trans second.tables, first.indexes.trans second.indexes⟩

/-- Only the empty catalog is like the empty one. -/
theorem Alike.eq_empty (alike : catalog.Alike {}) : catalog = {} := by
  obtain ⟨tables, indexes⟩ := catalog
  cases alike.tables.eq_nil
  cases alike.indexes.eq_nil
  rfl

theorem Alike.hasTable (alike : catalog.Alike other) (table : TableName) :
    catalog.hasTable table = other.hasTable table :=
  alike.tables.contains_eq

theorem Alike.hasIndex (alike : catalog.Alike other) (name : IndexName) :
    catalog.hasIndex name = other.hasIndex name := by
  unfold Catalog.hasIndex
  rw [Bool.eq_iff_iff, List.any_eq_true, List.any_eq_true]
  exact exists_congr fun index => and_congr_left fun _ => alike.indexes.mem_iff

/-- A change does the same to catalogs that are alike. -/
theorem Alike.apply (alike : catalog.Alike other) (applied : other.apply step = .ok after) :
    ∃ reached, catalog.apply step = .ok reached ∧ reached.Alike after := by
  cases step with
  | createTable table =>
      simp only [Catalog.apply, ← alike.hasTable] at applied ⊢
      split at applied <;> cases applied
      rename_i absent
      exact ⟨_, if_neg absent, alike.tables.append_right [table], alike.indexes⟩
  | dropTable table =>
      simp only [Catalog.apply, ← alike.hasTable] at applied ⊢
      split at applied <;> cases applied
      rename_i present
      exact ⟨_, if_pos present, alike.tables.filter _, alike.indexes.filter _⟩
  | createIndex index =>
      simp only [Catalog.apply, ← alike.hasTable, ← alike.hasIndex] at applied ⊢
      split at applied
      · rename_i present
        split at applied <;> cases applied
        rename_i absent
        exact ⟨_, (if_pos present).trans (if_neg absent), alike.tables,
          alike.indexes.append_right [index]⟩
      · cases applied
  | dropIndex name =>
      simp only [Catalog.apply, ← alike.hasIndex] at applied ⊢
      split at applied <;> cases applied
      rename_i present
      exact ⟨_, if_pos present, alike.tables, alike.indexes.filter _⟩

theorem applyAll_cons {changes : List Change}
    (applied : catalog.applyAll (step :: changes) = .ok after) :
    ∃ middle, catalog.apply step = .ok middle ∧ middle.applyAll changes = .ok after := by
  unfold applyAll at applied
  rw [List.foldlM_cons] at applied
  cases reached : catalog.apply step with
  | error error =>
      rw [reached] at applied
      cases applied
  | ok middle =>
      rw [reached] at applied
      exact ⟨middle, rfl, applied⟩

/-- An index that is not there comes only from its creation. -/
theorem not_mem_indexes_of_apply {index : Index} (applied : catalog.apply step = .ok after)
    (other : step ≠ .createIndex index) (absent : index ∉ catalog.indexes) :
    index ∉ after.indexes := by
  cases step with
  | createTable table =>
      simp only [apply] at applied
      split at applied <;> cases applied
      exact absent
  | dropTable table =>
      simp only [apply] at applied
      split at applied <;> cases applied
      exact fun stored => absent (List.mem_filter.mp stored).1
  | createIndex created =>
      simp only [apply] at applied
      split at applied
      · split at applied <;> cases applied
        simp only [List.mem_append, List.mem_singleton, not_or]
        exact ⟨absent, fun same => other (same ▸ rfl)⟩
      · cases applied
  | dropIndex name =>
      simp only [apply] at applied
      split at applied <;> cases applied
      exact fun stored => absent (List.mem_filter.mp stored).1

end Schema.Catalog

/-- A database is at a position of the schema: it has the tables and indexes that belong
there. Its rows may be any. -/
structure Database.IsAt (database : Database) (reached : Option Revision) : Prop where
  position : database.position = reached
  catalog : database.catalog.Alike (.atPosition reached)

theorem Database.isAt_atRevision (revision : Revision) (appliedOn : Time.Stamp) :
    (Database.atRevision revision appliedOn).IsAt (some revision) :=
  ⟨rfl, .refl _⟩

/-- A turn leaves the schema and its position alone. -/
theorem Turn.schema_outcome (turn : Turn) (before : Database) :
    (turn.outcome before).database.catalog = before.catalog ∧
      (turn.outcome before).database.position = before.position := by
  have unwritten : .position ∉ turn.request.writes := by
    cases turn.request <;> simp [Request.writes]
  exact ⟨(turn.writes before).keeps.catalog, ((turn.writes before).agree unwritten).symm⟩

/-- No turn writes to the ledger. -/
theorem Turn.ledger_outcome (turn : Turn) (before : Database) :
    (turn.outcome before).database.ledger = before.ledger := by
  have unwritten : .ledger ∉ turn.request.writes := by
    cases turn.request <;> simp [Request.writes]
  exact ((turn.writes before).agree unwritten).symm

/-- No run of requests moves a database away from its position. -/
theorem Database.IsAt.after {database : Database} {reached : Option Revision}
    (isAt : database.IsAt reached) (turns : List Turn) :
    (database.after turns).IsAt reached := by
  have kept (turn : Turn) (before : Database) (isAt : before.IsAt reached) :
      (turn.outcome before).database.IsAt reached := by
    obtain ⟨catalog, position⟩ := turn.schema_outcome before
    exact ⟨position.trans isAt.position, catalog ▸ isAt.catalog⟩
  exact Database.after_of_kept kept isAt turns

/-- The rows of a database under another catalog. -/
def Database.under (database : Database) (catalog : Catalog) : Database :=
  { database with catalog }

namespace Migration

variable {context : Context} {session : Session} {database : Database} {catalog after : Catalog}
  {step : Change} {changes : List Change}

/-- Whether the rows of a database forbid a schema change. -/
def isForbidden (database : Database) : Change → Bool
  | .createIndex index => index.unique && forbids database index.table index.columns
  | _ => false

/-- The rows that a schema change leaves. -/
def remaining (database : Database) : Change → Database
  | .dropTable table => database.erase table fun _ => true
  | _ => database

/-- Whether the rows forbid one of some schema changes made one after the other. -/
def areForbidden (database : Database) : List Change → Bool
  | [] => false
  | step :: rest => isForbidden database step || areForbidden (remaining database step) rest

/-- A database after schema changes made one after the other, up to the first one that the
store refuses. -/
def progress : List Change → Database → Database
  | [], database => database
  | step :: rest, database =>
      match altered database step with
      | .ok after => progress rest after
      | .error _ => database

@[simp] theorem isForbidden_under (database : Database) (catalog : Catalog) (step : Change) :
    isForbidden (database.under catalog) step = isForbidden database step := by
  cases step with
  | createIndex index =>
      unfold isForbidden forbids
      cases index.table <;> rfl
  | _ => rfl

@[simp] theorem remaining_under (database : Database) (catalog : Catalog) (step : Change) :
    remaining (database.under catalog) step = (remaining database step).under catalog := by
  cases step with
  | dropTable table => cases table <;> rfl
  | _ => rfl

@[simp] theorem areForbidden_under (database : Database) (catalog : Catalog)
    (changes : List Change) :
    areForbidden (database.under catalog) changes = areForbidden database changes := by
  induction changes generalizing database with
  | nil => rfl
  | cons step rest ih => simp [areForbidden, ih]

@[simp] theorem foldl_remaining_under (database : Database) (catalog : Catalog)
    (changes : List Change) :
    changes.foldl remaining (database.under catalog) =
      (changes.foldl remaining database).under catalog := by
  induction changes generalizing database with
  | nil => rfl
  | cons step rest ih => simp [ih]

/-- A change that fits the schema and that the rows allow is made. -/
theorem altered_allowed (alike : database.catalog.Alike catalog)
    (applied : catalog.apply step = .ok after) (allowed : isForbidden database step = false) :
    ∃ reached, reached.Alike after ∧
      altered database step = .ok ((remaining database step).under reached) := by
  obtain ⟨reached, same, reachedAlike⟩ := alike.apply applied
  refine ⟨reached, reachedAlike, ?_⟩
  unfold altered
  rw [same]
  cases step with
  | createIndex index =>
      unfold isForbidden at allowed
      simp only [allowed, Bool.false_eq_true, if_false]
      rfl
  | _ => rfl

/-- A change that the rows forbid is refused to keep them whole. -/
theorem altered_forbidden (alike : database.catalog.Alike catalog)
    (applied : catalog.apply step = .ok after) (forbidden : isForbidden database step = true) :
    ∃ error, error.isIntegrity = true ∧ altered database step = .error error := by
  obtain ⟨reached, same, _⟩ := alike.apply applied
  unfold altered
  rw [same]
  cases step with
  | createIndex index =>
      unfold isForbidden at forbidden
      simp only [forbidden, if_true]
      exact ⟨_, rfl, rfl⟩
  | _ => cases forbidden

@[simp] theorem ends_alter {answers : Unit → Session → Prop} {fails : Failure → Session → Prop}
    (step : Change) :
    (alter step).Ends context session answers fails ↔
      (∀ error, altered session.current step = .error error → fails (.store error) session) ∧
      (∀ after, altered session.current step = .ok after →
        answers () { session with
          current := after
          saved := if session.isOpen then session.saved else after }) := by
  unfold alter
  rw [ends_bind, ends_database]
  cases altered session.current step with
  | error error => simp
  | ok after =>
      simp only [reduceCtorEq, false_implies, implies_true, true_and, Except.ok.injEq, forall_eq']
      exact Iff.rfl

/-- What is saved after schema changes: where rows were changed before, what was saved then. -/
def held (session : Session) (changes : List Change) : Database :=
  if session.isOpen then session.saved else progress changes session.current

/-- The store refuses something to keep the rows whole. -/
def IsIntegrityFailure (failure : Failure) : Prop :=
  ∃ error, failure = .store error ∧ error.isIntegrity = true

/-- Schema changes that fit the schema fail where the rows forbid one of them. -/
theorem ends_alterAll (alike : session.current.catalog.Alike catalog)
    (applied : catalog.applyAll changes = .ok after)
    (saved : session.isOpen = false → session.saved = session.current) :
    (alterAll changes).Ends context session
      (fun _ final =>
        areForbidden session.current changes = false ∧ final.saved = held session changes ∧
          ∃ reached, reached.Alike after ∧
            final.current = (changes.foldl remaining session.current).under reached)
      (fun failure final =>
        areForbidden session.current changes = true ∧ final.saved = held session changes ∧
          IsIntegrityFailure failure) := by
  induction changes generalizing session catalog with
  | nil =>
      cases applied
      refine ⟨rfl, ?_, _, alike, rfl⟩
      unfold held
      cases isOpen : session.isOpen with
      | true => rfl
      | false => exact saved isOpen
  | cons step rest ih =>
      obtain ⟨middle, first, others⟩ := Catalog.applyAll_cons applied
      rw [alterAll, ends_bind, ends_alter]
      cases forbidden : isForbidden session.current step with
      | true =>
          obtain ⟨error, isIntegrity, refused⟩ := altered_forbidden alike first forbidden
          simpa [refused, areForbidden, forbidden, held, progress, IsIntegrityFailure, isIntegrity]
            using saved
      | false =>
          obtain ⟨reached, reachedAlike, done⟩ := altered_allowed alike first forbidden
          simp only [done, areForbidden, forbidden, reduceCtorEq, false_implies, implies_true,
            true_and, Except.ok.injEq, forall_eq', Bool.false_or]
          have sameHeld : held session (step :: rest) = held { session with
              current := (remaining session.current step).under reached
              saved := if session.isOpen then session.saved
                else (remaining session.current step).under reached } rest := by
            cases isOpen : session.isOpen <;> simp [held, isOpen, progress, done]
          rw [sameHeld]
          refine (ih reachedAlike others ?_).imp ?_ ?_
          · exact fun isClosed => if_neg (by simp [show session.isOpen = false from isClosed])
          · rintro _ final ⟨allowed, saved, last, lastAlike, current⟩
            rw [areForbidden_under] at allowed
            rw [foldl_remaining_under] at current
            exact ⟨allowed, saved, last, lastAlike, current⟩
          · rintro _ final ⟨refused, saved, integrity⟩
            rw [areForbidden_under] at refused
            exact ⟨refused, saved, integrity⟩

theorem apply_of_altered {next : Database} (done : altered database step = .ok next) :
    database.catalog.apply step = .ok next.catalog := by
  unfold altered at done
  cases applied : database.catalog.apply step with
  | error error =>
      rw [applied] at done
      cases done
  | ok reached =>
      rw [applied] at done
      cases step with
      | createIndex index =>
          simp only at done
          split at done <;> cases done
          rfl
      | _ => cases done; rfl

/-- A change that is made was not forbidden and leaves the rows that remain. -/
theorem under_of_altered {next : Database} (done : altered database step = .ok next) :
    isForbidden database step = false ∧
      next = (remaining database step).under next.catalog := by
  unfold altered at done
  cases applied : database.catalog.apply step with
  | error error =>
      rw [applied] at done
      cases done
  | ok reached =>
      rw [applied] at done
      cases step with
      | createIndex index =>
          simp only at done
          split at done <;> cases done
          rename_i allowed
          exact ⟨by simpa [isForbidden] using allowed, rfl⟩
      | _ =>
          cases done
          exact ⟨rfl, rfl⟩

/-- An index that no change creates does not come back. -/
theorem not_mem_progress {index : Index} (unmade : .createIndex index ∉ changes)
    (absent : index ∉ database.catalog.indexes) :
    index ∉ (progress changes database).catalog.indexes := by
  induction changes generalizing database with
  | nil => exact absent
  | cons step rest ih =>
      simp only [List.mem_cons, not_or] at unmade
      unfold progress
      split
      · rename_i next done
        exact ih unmade.2
          (Catalog.not_mem_indexes_of_apply (apply_of_altered done) (Ne.symm unmade.1) absent)
      · exact absent

/-- Changes that start with an index that goes and does not come back leave a trace. -/
theorem progress_ne {index : Index} (stored : index ∈ database.catalog.indexes)
    (unmade : .createIndex index ∉ changes) :
    progress (.dropIndex index.name :: changes) database ≠ database := by
  have present : database.catalog.hasIndex index.name = true :=
    List.any_eq_true.mpr ⟨index, stored, by simp⟩
  intro same
  rw [← same] at stored
  simp only [progress, altered, Catalog.apply, present, if_true] at stored
  exact not_mem_progress unmade (by simp) stored

end Migration

end Lookout
