import Lookout.Proofs.CheckedUpgrade
import Lookout.Proofs.Pairing.Requests
import Mathlib.Data.List.Sort

/-!
# Postponed upgrades

An upgrade to the newest revision may wait until after a request. What is answered at an older
revision is answered likewise at the newest one: the newest revision has every table, and rows
that are alike in one of its unique keys are alike in one that the older revision has as well. So
the request and the upgrade can change places, and the rows are the same in the end.
-/

namespace Lookout

open Disguisable (disguised)
open Operation Store
open Schema (Catalog Column Revision TableName)
open Time (Stamp)

/-- Tables that hold the same rows under the same numbers are the same. -/
theorem Store.Table.eq_of_mem_iff {α : Type} {left right : Table α}
    (same : ∀ entry, entry ∈ left.entries ↔ entry ∈ right.entries) : left = right := by
  have antisymm : Std.Antisymm fun earlier later : Entry α => earlier.id < later.id :=
    ⟨fun _ _ below above => absurd (Int.lt_trans below above) (Int.lt_irrefl _)⟩
  have irrefl : Std.Irrefl fun earlier later : Entry α => earlier.id < later.id :=
    ⟨fun _ => Int.lt_irrefl _⟩
  exact Table.ext (left.ascending.eq_of_mem_iff right.ascending same)

/-- In a table of a position, every unique key of the newest revision is made of one of the
position and of more columns. -/
theorem Schema.Catalog.covered_atPosition {position : Option Revision} {table : TableName}
    (present : (atPosition position).hasTable table = true) {key : List Column}
    (isKey : key ∈ (atPosition (some .head)).uniqueKeys table) :
    ∃ fewer ∈ (atPosition position).uniqueKeys table, fewer ⊆ key := by
  have all : ((atPosition (some .head)).uniqueKeys table).all (fun key =>
      ((atPosition position).uniqueKeys table).any fun fewer => fewer.all key.contains) = true := by
    revert present
    rcases position with _ | position
    · cases table <;> decide
    · cases position <;> cases table <;> decide
  obtain ⟨fewer, isFewer, among⟩ := List.any_eq_true.mp (List.all_eq_true.mp all key isKey)
  exact ⟨fewer, isFewer, fun column isColumn =>
    List.contains_iff_mem.mp (List.all_eq_true.mp among column isColumn)⟩

/-- What a database has that is at its position, the newest revision covers. -/
theorem Database.IsPlaced.covered {database newest : Database} (placed : database.IsPlaced)
    (isAt : newest.IsAt (some .head)) {table : TableName} {key : List Column}
    (present : database.catalog.hasTable table = true)
    (isKey : key ∈ newest.catalog.uniqueKeys table) :
    ∃ fewer ∈ database.catalog.uniqueKeys table, fewer ⊆ key := by
  rcases placed with ⟨-, nothing⟩ | placedAt
  · rw [nothing] at present
    cases present
  · rw [placedAt.catalog.hasTable] at present
    obtain ⟨fewer, isFewer, among⟩ :=
      Catalog.covered_atPosition present (isAt.catalog.mem_uniqueKeys.mp isKey)
    exact ⟨fewer, placedAt.catalog.mem_uniqueKeys.mpr isFewer, among⟩

namespace Pairing

variable {before after : Database}

/-- A run at the position of a database, and beside it a run at the newest revision. -/
def advancing (placed : before.IsPlaced) (isAt : after.IsAt (some .head)) : Pairing where
  disguise := .plain
  earlier := before.catalog
  later := after.catalog
  isStrict := False
  hasTable _ := Migration.hasTable_head isAt _
  ignored newest _ := isAt.catalog.mem_uniqueKeys.mpr newest
  covered := placed.covered isAt
  strict := False.elim

/-- A database is joined to one that an upgrade leaves of it. -/
theorem joins_advancing {appliedOn : Stamp} (placed : before.IsPlaced)
    (upgraded : Migration.Upgraded appliedOn before after) :
    (advancing placed upgraded.isAt).Joins before after := by
  have plainly {α : Type} [Relation α] [Disguisable α] {left right : Table α}
      (same : left = right) : right = left.map (disguised Disguise.plain) :=
    same.symm.trans (Table.map_self Disguisable.disguised_plain).symm
  have rows := upgraded.rows
  exact
    { earlier := rfl
      later := rfl
      journal := plainly (rows .journal nofun nofun)
      accounts := plainly (rows .accounts nofun nofun)
      tokens := plainly (rows .tokens nofun nofun)
      invites := plainly (rows .invites nofun nofun)
      threads := plainly (rows .threads nofun nofun)
      descriptors := plainly (rows .descriptors nofun nofun)
      posts := plainly (rows .posts nofun nofun)
      replies := plainly (rows .replies nofun nofun)
      watches := plainly (rows .watches nofun nofun) }

/-- Databases that are joined without a disguise hold the same rows of the services. -/
theorem Joins.agree {pairing : Pairing} (joins : pairing.Joins before after)
    (plain : pairing.disguise = .plain) {table : TableName} (unmoved : table ≠ .position)
    (other : table ≠ .ledger) : before.Agree after table := by
  have plainly {α : Type} [Relation α] [Disguisable α] {left right : Table α}
      (same : right = left.map (disguised pairing.disguise)) : left = right := by
    rw [same, plain, Table.map_self Disguisable.disguised_plain]
  cases table with
  | position => exact absurd rfl unmoved
  | ledger => exact absurd rfl other
  | journal => exact plainly joins.journal
  | accounts => exact plainly joins.accounts
  | tokens => exact plainly joins.tokens
  | invites => exact plainly joins.invites
  | threads => exact plainly joins.threads
  | descriptors => exact plainly joins.descriptors
  | posts => exact plainly joins.posts
  | replies => exact plainly joins.replies
  | watches => exact plainly joins.watches

end Pairing

/-- Upgrades at the same time that start from the same position and the same ledger leave the same
ledger. -/
theorem Migration.Upgraded.ledger_eq {appliedOn : Stamp} {before after other last : Database}
    (first : Upgraded appliedOn before after) (second : Upgraded appliedOn other last)
    (position : before.position = other.position) (ledger : before.ledger = other.ledger) :
    after.ledger = last.ledger :=
  Table.eq_of_mem_iff fun line => by rw [first.lines, second.lines, position, ledger]

/-- A ledger without drift does not stop a run to the newest revision. -/
theorem Migration.run_undrifted {database : Database} (settled : database.IsSettled)
    (undrifted : ∀ line ∈ database.ledger.entries, Ledger.isDrifted line = false)
    (context : Context) (draws : Draws) :
    let outcome := (run (some "head")).perform context database draws
    outcome.answer = .ok (outcome.database.ledger.entries.map (·.id)).max? ∧
      Upgraded (Stamp.ofClock context.clock) database outcome.database := by
  intro outcome
  rcases (ends_run settled context draws).outcome with
    ⟨version, final, ⟨-, largest, upgraded⟩, answered, kept⟩ |
    ⟨failure, final, ⟨-, line, found, -⟩, failed, -⟩
  · rw [← kept] at largest upgraded
    exact ⟨largest ▸ answered, upgraded⟩
  · obtain ⟨stored, drifted⟩ := Table.of_find? found
    rw [undrifted line stored] at drifted
    cases drifted

/-- A request that is answered before an upgrade and one after it, if nothing has drifted. -/
theorem Turn.postponed {before : Database} (reached : before.Reached)
    (undrifted : ∀ line ∈ before.ledger.entries, Ledger.isDrifted line = false) (turn : Turn)
    {answer : turn.request.Answer} (answered : (turn.outcome before).answer = .ok answer)
    (draws : Draws) :
    let upgrade (database : Database) :=
      (Migration.run (some "head")).perform turn.context database draws
    let first := turn.outcome (upgrade before).database
    let last := upgrade (turn.outcome before).database
    (∃ version, (upgrade before).answer = .ok version ∧ last.answer = .ok version) ∧
      first.answer = .ok answer ∧ ∀ table, last.database.Agree first.database table := by
  intro upgrade first last
  have served := reached.served turn
  have sameLedger := turn.ledger_outcome before
  have samePosition := (turn.schema_outcome before).2
  obtain ⟨beforehand, upgraded⟩ :=
    Migration.run_undrifted reached.isSettled undrifted turn.context draws
  obtain ⟨afterwards, upgradedLast⟩ := Migration.run_undrifted served.isSettled
    (fun line stored => undrifted line (sameLedger ▸ stored)) turn.context draws
  have ledgers : (upgrade before).database.ledger = last.database.ledger :=
    upgraded.ledger_eq upgradedLast samePosition.symm sameLedger.symm
  have joins := Pairing.joins_advancing reached.isSettled.placed upgraded
  obtain ⟨reply, replied, rfl, joined, -⟩ :=
    (turn.request.follows_plain rfl).of_answer joins answered
  refine ⟨⟨_, beforehand, ?_⟩, replied, fun table => ?_⟩
  · rw [ledgers]
    exact afterwards
  · -- Upgrades settle the position and the ledger, and both orders keep the rows of the services.
    by_cases isPosition : table = .position
    · subst isPosition
      exact upgradedLast.isAt.position.trans
        ((turn.schema_outcome _).2.trans upgraded.isAt.position).symm
    · by_cases isLedger : table = .ledger
      · subst isLedger
        exact ((turn.ledger_outcome _).trans ledgers).symm
      · exact (upgradedLast.rows table isPosition isLedger).symm.trans
          (joined.agree rfl isPosition isLedger)

namespace Database

/-- A database without rows at a position of the schema. -/
def fresh (appliedOn : Stamp) : Option Revision → Database
  | none => {}
  | some revision => .atRevision revision appliedOn

theorem reached_fresh (appliedOn : Stamp) (position : Option Revision) :
    (fresh appliedOn position).Reached := by
  cases position with
  | none => exact .empty
  | some revision => exact .founded revision appliedOn

/-- No run of requests writes to the ledger. -/
theorem ledger_after (database : Database) (turns : List Turn) :
    (database.after turns).ledger = database.ledger := by
  have kept (turn : Turn) (before : Database) (same : before.ledger = database.ledger) :
      (turn.outcome before).database.ledger = database.ledger :=
    (turn.ledger_outcome before).trans same
  exact after_of_kept kept rfl turns

/-- The ledger of a database without rows lists revisions as they are. -/
theorem isDrifted_fresh {appliedOn : Stamp} {position : Option Revision} {line : Entry LedgerLine}
    (stored : line ∈ (fresh appliedOn position).ledger.entries) :
    Ledger.isDrifted line = false := by
  have known (revisions : List Revision) (ledger : Table LedgerLine)
      (undrifted : ∀ line ∈ ledger.entries, Ledger.isDrifted line = false) :
      ∀ line ∈ (revisions.foldl (fun ledger applied =>
          ledger.put applied.number (Ledger.lineOf appliedOn applied).row) ledger).entries,
        Ledger.isDrifted line = false := by
    induction revisions generalizing ledger with
    | nil => exact undrifted
    | cons revision rest ih =>
        refine ih _ fun line stored => ?_
        rcases Table.mem_put.mp stored with rfl | ⟨old, -⟩
        · exact Ledger.isDrifted_lineOf revision
        · exact undrifted line old
  cases position with
  | none => cases stored
  | some revision => exact known _ .empty (by simp [Table.empty]) line stored

end Database

/-- In a run of requests that starts from a database without rows, at any position of the schema,
an upgrade makes no difference to what is answered already: a request that is answered is answered
likewise after an upgrade to the newest revision, and whether the upgrade comes before the request
or after it, the same rows are in every table in the end. -/
theorem Turn.answered_likewise_upgraded (position : Option Revision) (appliedOn : Stamp)
    (turns : List Turn) (turn : Turn) (answer : turn.request.Answer)
    (answered : (turn.outcome ((Database.fresh appliedOn position).after turns)).answer =
      .ok answer) (draws : Draws) :
    let before := (Database.fresh appliedOn position).after turns
    let upgrade (database : Database) :=
      (Migration.run (some "head")).perform turn.context database draws
    let first := turn.outcome (upgrade before).database
    let last := upgrade (turn.outcome before).database
    (∃ version, (upgrade before).answer = .ok version ∧ last.answer = .ok version) ∧
      first.answer = .ok answer ∧ ∀ table, last.database.Agree first.database table := by
  have sameLedger : ((Database.fresh appliedOn position).after turns).ledger =
      (Database.fresh appliedOn position).ledger :=
    Database.ledger_after _ turns
  refine turn.postponed ((Database.reached_fresh appliedOn position).after turns) ?_ answered draws
  intro line stored
  rw [sameLedger] at stored
  exact Database.isDrifted_fresh stored

/-- At the first revision an account registers its token. -/
theorem Turn.answered_likewise_upgraded_token :
    let context : Context := { clock := ⟨0⟩ }
    let turns : List Turn := [{ request := .upsertAccount (some "a") none, context }]
    let turn : Turn :=
      { request := .registerToken (some "a") (some "t") (.integer 0) (.integer 0), context }
    let before := (Database.fresh ⟨⟨0⟩, true⟩ (some .initial)).after turns
    let upgrade (database : Database) :=
      (Migration.run (some "head")).perform turn.context database {}
    let first := turn.outcome (upgrade before).database
    let last := upgrade (turn.outcome before).database
    (turn.outcome before).answer = .ok (1 : Int) ∧
      (∃ version, (upgrade before).answer = .ok version ∧ last.answer = .ok version) ∧
      first.answer = .ok (1 : Int) ∧ ∀ table, last.database.Agree first.database table := by
  intro context turns turn before upgrade first last
  have answered : (turn.outcome before).answer = .ok (1 : Int) :=
    Outcome.answer_eq_ok (by decide +kernel)
  refine ⟨answered, ?_⟩
  exact Turn.answered_likewise_upgraded (some .initial) ⟨⟨0⟩, true⟩ turns turn (1 : Int) answered {}

end Lookout
