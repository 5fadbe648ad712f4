import Lookout.Proofs.Upgrade

/-!
# Reachable databases

The databases that come from an empty store, or from one without rows at a revision, by requests,
by schema changes that succeed, and by edits of the ledger. However ledger and schema disagree by
then, a reachable database is orderly, and it has the tables and indexes of its position.
-/

namespace Lookout

open Operation Store
open Schema (Catalog Direction Revision)

variable {context : Context} {database : Database} {draws : Draws}

/-- There is nothing in a database, or the tables and indexes of its position. -/
def Database.IsPlaced (database : Database) : Prop :=
  database.position = none ∧ database.catalog = {} ∨ database.IsAt database.position

/-- A database is ready for a schema change: its rows are in order and its schema is that of its
position. -/
structure Database.IsSettled (database : Database) : Prop where
  orderly : database.IsOrderly
  placed : database.IsPlaced

namespace Migration

/-- A schema change led from one database to another one, by one of the ways to ask for it. -/
inductive Moved (before : Database) : Direction → Database → Prop where
  | run {target : Option String} {context : Context} {draws : Draws} {version : Option Int}
      (answered : ((run target).perform context before draws).answer = .ok version) :
      Moved before .upgrade ((run target).perform context before draws).database
  | downgrade {target : Option String} {context : Context} {draws : Draws} {version : Option Int}
      (answered : ((downgrade target).perform context before draws).answer = .ok version) :
      Moved before .downgrade ((downgrade target).perform context before draws).database
  | guarded {direction : Direction} {target : Option String} {context : Context} {draws : Draws}
      (answered : ((guarded direction target).perform context before draws).answer = .ok ()) :
      Moved before direction ((guarded direction target).perform context before draws).database

/-- Where a target is needed, an operation goes on with it or fails. -/
theorem ends_single {session : Session} {target : Option String}
    {answers : String → Session → Prop}
    (given : ∀ text, target = some text → answers text session) :
    (single target).Ends context session answers (fun _ _ => True) := by
  cases target with
  | none => trivial
  | some text =>
      simp only [single, ends_ite, ends_throw, ends_pure]
      exact ⟨fun _ => trivial, fun _ => given text rfl⟩

/-- What every way from a database leads to holds after a schema change. -/
theorem Moved.of_lead {before after : Database} {property : Database → Prop}
    {direction : Direction} (moved : Moved before direction after)
    (leads : ∀ context draws log target,
      (lead direction target).Ends context { saved := before, current := before, draws, log }
        (fun _ final => property final.current) (fun _ _ => True)) :
    property after := by
  have ends_of_answer {α : Type} {operation : Operation α} {context : Context} {draws : Draws}
      {answer : α} (answered : (operation.perform context before draws).answer = .ok answer)
      (ends : operation.Ends context { saved := before, current := before, draws }
        (fun _ final => property final.saved) (fun _ _ => True)) :
      property (operation.perform context before draws).database := by
    obtain ⟨_, holds, same⟩ := ends.of_answer answered
    rwa [same]
  cases moved with
  | run answered =>
      refine ends_of_answer answered ?_
      simp only [Migration.run, ends_bind, ends_log, ends_tryCatch, ends_throw, ends_pure,
        Ledger.recorded, Ledger.currentVersion, ends_rows, ends_commit]
      refine Ledger.ends_verify.imp ?_ (fun _ _ _ => trivial)
      rintro _ _ ⟨_, log, rfl⟩
      exact ends_single fun text _ => leads _ _ _ text
  | downgrade answered =>
      refine ends_of_answer answered ?_
      simp only [Migration.downgrade, ends_bind, ends_pure, Ledger.currentVersion, ends_rows,
        ends_commit]
      exact ends_single fun text _ => leads _ _ _ text
  | guarded answered =>
      refine ends_of_answer answered ?_
      simp only [Migration.guarded, ends_bind, ends_commit]
      refine ends_single fun text _ => ?_
      refine Ledger.ends_verify.imp ?_ (fun _ _ _ => trivial)
      rintro _ _ ⟨_, log, rfl⟩
      exact leads _ _ _ text

/-- A way up or down from a database at its position starts there, once there is a table to
write the position down in. -/
theorem ends_lead {direction : Direction} {target : String} {log : List LogLine}
    {answers : Unit → Session → Prop} {fails : Failure → Session → Prop}
    (settled : database.IsSettled)
    (goesOn : ∀ catalog steps,
      (database.under catalog).IsAt database.position → (database.under catalog).IsOrderly →
      Schema.route direction database.position target = .ok steps →
      (takeAll direction steps).Ends context
        { saved := database.under catalog, current := database.under catalog, draws, log }
        answers fails)
    (strays : ∀ error final, Schema.route direction database.position target = .error error →
      fails (.target error) final) :
    (lead direction target).Ends context { saved := database, current := database, draws, log }
      answers fails := by
  have placed {catalog : Catalog} (isAt : (database.under catalog).IsAt database.position) :
      (database.under catalog).catalog.hasTable .position = true := by
    rw [isAt.catalog.hasTable]
    cases database.position <;> rfl
  have follow {catalog : Catalog} (isAt : (database.under catalog).IsAt database.position)
      (orderly : (database.under catalog).IsOrderly) :
      (lead direction target).Ends context
        { saved := database.under catalog, current := database.under catalog, draws, log }
        answers fails := by
    simp only [lead, ends_bind, ends_database, ends_ite, placed isAt, Bool.not_true,
      Bool.and_false, Bool.false_eq_true, false_implies, true_and, not_false_eq_true, true_implies]
    split
    · exact goesOn catalog _ isAt orderly ‹_›
    · exact strays _ _ ‹_›
  rcases settled.placed with ⟨position, nothing⟩ | isAt
  · have absent : database.catalog.hasTable .position = false := by
      rw [nothing]
      rfl
    have done : altered database (.createTable .position) =
        .ok (database.under (.atPosition none)) := by
      simp only [altered, Catalog.apply, absent, Bool.false_eq_true, if_false]
      rw [nothing]
      rfl
    have isAt : (database.under (.atPosition none)).IsAt database.position :=
      ⟨rfl, position ▸ .refl _⟩
    -- Once the table is made, the way is that of a database at no revision.
    have started := follow isAt (settled.orderly.altered rfl done)
    simp only [lead, ends_bind, ends_database, ends_ite, ends_alter] at started ⊢
    refine ⟨fun _ => ⟨fun error failed => ?_, fun after made => ?_⟩, fun present => ?_⟩
    · rw [done] at failed
      cases failed
    · rw [done] at made
      cases made
      exact started.2 (by rw [placed isAt, Bool.not_true, Bool.and_false]; exact Bool.false_ne_true)
    · rw [position, absent] at present
      exact absurd rfl present
  · exact follow isAt settled.orderly

/-- Whichever way a schema change goes, it leaves a database ready for the next one. -/
theorem ends_lead_isSettled (settled : database.IsSettled) (direction : Direction)
    (target : String) (log : List LogLine) :
    (lead direction target).Ends context { saved := database, current := database, draws, log }
      (fun _ final => final.current.IsSettled) (fun _ _ => True) := by
  refine ends_lead settled (fun catalog steps isAt orderly routed => ?_) (fun _ _ _ => trivial)
  have goesSomewhere : (takeAll direction steps).Ends context
      { saved := database.under catalog, current := database.under catalog, draws, log }
      (fun _ final => ∃ reached, final.current.IsAt reached) (fun _ _ => True) := by
    cases direction with
    | upgrade =>
        obtain ⟨last, ascends⟩ := ascends_route routed
        exact (ends_takeAll_upgrade ascends orderly isAt (fun _ => rfl)).imp
          (fun _ _ advanced => ⟨last, advanced.isAt⟩) (fun _ _ _ => trivial)
    | downgrade =>
        obtain ⟨last, descends⟩ := descends_route routed
        exact (ends_takeAll descends isAt (fun _ => rfl)).imp
          (fun _ _ reached => ⟨last, reached.2.isAt⟩) (fun _ _ _ => trivial)
  refine (goesSomewhere.and (isLasting_isOrderly.ends_takeAll direction steps orderly)).imp ?_
    (fun _ _ _ => trivial)
  rintro _ final ⟨⟨reached, isAt⟩, orderly⟩
  exact ⟨orderly, .inr (isAt.position.symm ▸ isAt)⟩

end Migration

namespace Database

/-- The databases that requests, successful schema changes and edits of the ledger lead to, from
an empty store or from one without rows at a revision. -/
inductive Reached : Database → Prop where
  | empty : Reached {}
  | founded (revision : Revision) (appliedOn : Time.Stamp) :
      Reached (.atRevision revision appliedOn)
  | served {before : Database} (reached : Reached before) (turn : Turn) :
      Reached (turn.outcome before).database
  | moved {before after : Database} {direction : Direction} (reached : Reached before)
      (moved : Migration.Moved before direction after) : Reached after
  | edited {before : Database} (reached : Reached before) (ledger : Table LedgerLine)
      (present : before.catalog.hasTable .ledger = true) : Reached { before with ledger }

/-- Runs of requests reach what they lead to. -/
theorem Reached.after (reached : database.Reached) (turns : List Turn) :
    (database.after turns).Reached :=
  after_of_kept (fun turn _ reached => reached.served turn) reached turns

/-- What lasts through schema changes and is kept by every turn holds of every reachable
database. -/
theorem Reached.of_isLasting {property : Database → Prop} (lasting : Migration.IsLasting property)
    (empty : property {})
    (founded : ∀ revision appliedOn, property (.atRevision revision appliedOn))
    (served : ∀ (turn : Turn) (before : Database), property before →
      property (turn.outcome before).database)
    (reached : database.Reached) : property database := by
  induction reached with
  | empty => exact empty
  | founded revision appliedOn => exact founded revision appliedOn
  | served reached turn holds => exact served turn _ holds
  | moved reached moved holds =>
      exact moved.of_lead fun _ _ _ target => lasting.ends_lead _ target holds
  | edited reached ledger present holds => exact lasting.recorded ledger holds present

/-- Every reachable database is ready for a schema change. -/
theorem Reached.isSettled (reached : database.Reached) : database.IsSettled := by
  induction reached with
  | empty => exact ⟨isOrderly_empty, .inl ⟨rfl, rfl⟩⟩
  | founded revision appliedOn =>
      exact ⟨isOrderly_atRevision revision appliedOn, .inr (isAt_atRevision revision appliedOn)⟩
  | @served before reached turn settled =>
      obtain ⟨catalog, position⟩ := turn.schema_outcome before
      refine ⟨(turn.writes before).isOrderly settled.orderly, ?_⟩
      rw [IsPlaced, position, catalog]
      exact settled.placed.imp id fun isAt => ⟨position, catalog ▸ isAt.catalog⟩
  | moved reached moved settled =>
      exact moved.of_lead fun _ _ log target => Migration.ends_lead_isSettled settled _ target log
  | edited reached ledger present settled =>
      exact ⟨Migration.isLasting_isOrderly.recorded ledger settled.orderly present,
        settled.placed.imp id fun isAt => ⟨isAt.position, isAt.catalog⟩⟩

end Database

end Lookout
