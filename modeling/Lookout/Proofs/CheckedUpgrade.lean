import Lookout.Proofs.Reachability

/-!
# Checked upgrades

An upgrade to the newest revision first checks the ledger for drift. From a reachable database
drift is all that can stop it, and then nothing has changed. Otherwise the rows of the services
stay as they are, what was missing exists and is empty, and the ledger lists what it listed
before and each revision that was applied.
-/

namespace Lookout

open Operation Store
open Schema (Revision TableName)
open Time (Stamp)

namespace Store.Table

variable {α : Type} {table : Table α}

/-- The first row of a kind has the lowest number of the kind. -/
theorem le_of_find? {wanted : Entry α → Bool} {first other : Entry α}
    (found : table.find? wanted = some first) (stored : other ∈ table.entries)
    (isWanted : wanted other = true) : first.id ≤ other.id := by
  obtain ⟨-, front, back, split, unwanted⟩ := List.find?_eq_some_iff_append.mp found
  have ascending := table.ascending
  rw [split] at stored ascending
  rcases List.mem_append.mp stored with inFront | inBack
  · have refused := unwanted other inFront
    rw [isWanted] at refused
    cases refused
  · rcases List.mem_cons.mp inBack with rfl | later
    · exact Int.le_refl _
    · have tail := (List.pairwise_append.mp ascending).2.1
      exact Int.le_of_lt ((List.pairwise_cons.mp tail).1 other later)

/-- The last number in use is the largest one. -/
theorem lastId?_eq_max? (table : Table α) :
    table.lastId? = (table.entries.map (·.id)).max? := by
  have ascending := table.ascending
  unfold lastId?
  generalize table.entries = entries at ascending
  rcases entries.eq_nil_or_concat with rfl | ⟨front, last, rfl⟩
  · rfl
  · symm
    rw [List.concat_eq_append] at ascending ⊢
    simp only [List.getLast?_append, List.getLast?_singleton, Option.some_or,
      Option.map_some, List.max?_eq_some_iff, List.map_append, List.map_cons, List.map_nil,
      List.mem_append, List.mem_map, List.mem_singleton]
    refine ⟨.inr trivial, ?_⟩
    rintro id (⟨entry, stored, rfl⟩ | rfl)
    · have below := (List.pairwise_append.mp ascending).2.2 entry stored last (.head _)
      exact Int.le_of_lt below
    · exact Int.le_refl _

end Store.Table

namespace Migration

variable {database before after : Database}

/-- A database as an upgrade to the newest revision leaves it: the rows of the services are those
of before, tables that were missing exist and are empty, and the ledger has one more line for
each revision that was applied and not recorded before. -/
structure Upgraded (appliedOn : Stamp) (before after : Database) : Prop where
  isAt : after.IsAt (some .head)
  rows : ∀ table, table ≠ .position → table ≠ .ledger → before.Agree after table
  made : ∀ table, before.catalog.hasTable table = false →
    after.catalog.hasTable table = true ∧ (table ≠ .ledger → after.cells table = [])
  lines : ∀ line, line ∈ after.ledger.entries ↔
    line ∈ before.ledger.entries ∨
      ∃ revision ∈ Revision.between before.position (some .head),
        before.ledger.has revision.number = false ∧ line = Ledger.lineOf appliedOn revision

/-- Every table exists at the newest revision. -/
theorem hasTable_head (isAt : database.IsAt (some .head)) (table : TableName) :
    database.catalog.hasTable table = true := by
  rw [isAt.catalog.hasTable]
  cases table <;> rfl

/-- Applying the revisions up to the newest one leaves an upgraded database. -/
theorem Advanced.upgraded {appliedOn : Stamp} {catalog : Schema.Catalog}
    (orderly : before.IsOrderly)
    (advanced : Advanced appliedOn (before.under catalog)
      (Revision.between before.position (some .head)) (some .head) after) :
    Upgraded appliedOn before after := by
  have rows (table : TableName) (unmoved : table ≠ .position) (other : table ≠ .ledger) :
      before.Agree after table := by
    rw [advanced.same]
    cases table with
    | position => exact absurd rfl unmoved
    | ledger => exact absurd rfl other
    | _ => rfl
  refine ⟨advanced.isAt, rows, fun table missing => ⟨hasTable_head advanced.isAt table, ?_⟩, ?_⟩
  · intro other
    by_cases isPosition : table = .position
    · subst isPosition
      rfl
    · rw [← (rows table isPosition other).cells]
      exact orderly.tidy table missing
  · intro line
    rw [advanced.same]
    exact Ledger.mem_foldl_noted

theorem route_head (position : Option Revision) :
    Schema.route .upgrade position "head" = .ok (Revision.between position (some .head)) := by
  rcases position with _ | position
  · rfl
  · cases position <;> rfl

/-- A run to the newest revision ends in the drift of the first line that has drifted, or in an
upgraded database and its largest recorded version. -/
theorem ends_run (settled : database.IsSettled) (context : Context) (draws : Draws) :
    (run (some "head")).Ends context { saved := database, current := database, draws }
      (fun version final =>
        database.ledger.find? Ledger.isDrifted = none ∧
          version = (final.saved.ledger.entries.map (·.id)).max? ∧
          Upgraded (Stamp.ofClock context.clock) database final.saved)
      (fun failure final =>
        final.saved = database ∧
          ∃ line, database.ledger.find? Ledger.isDrifted = some line ∧
            failure = Ledger.drift line) := by
  simp only [run, ends_bind, ends_log, ends_tryCatch, ends_throw, ends_pure, Ledger.recorded,
    Ledger.currentVersion, ends_rows, ends_commit]
  refine Ledger.ends_verify.imp ?_ ?_
  · rintro _ _ ⟨undrifted, log, rfl⟩
    have isSingle : single (some "head") = pure "head" := rfl
    rw [isSingle, ends_pure]
    refine ends_lead settled (fun catalog steps isAt orderly routed => ?_) ?_
    · rw [route_head] at routed
      cases routed
      refine (ends_takeAll_upgrade (ascends_head _) orderly isAt (fun _ => rfl)).imp ?_ ?_
      · intro _ final advanced
        exact ⟨undrifted, Table.lastId?_eq_max? _, advanced.upgraded settled.orderly⟩
      · -- Only drift could stop the way up, and the check has found none.
        rintro _ _ ⟨line, stored, drifted⟩
        exact absurd drifted (List.find?_eq_none.mp undrifted line stored)
    · intro error _ strays
      rw [route_head] at strays
      cases strays
  · rintro failure _ ⟨drifted, log, rfl⟩
    exact ⟨rfl, drifted⟩

/-- From a reachable database a run to the newest revision fails exactly where a line of the
ledger has drifted. It names the lowest such version and leaves everything as it was. Otherwise
the database is upgraded, and the answer is the largest recorded version. -/
theorem run_newest {database : Database} (reached : database.Reached) (context : Context)
    (draws : Draws) :
    let outcome := (run (some "head")).perform context database draws
    ((∃ version recorded expected, outcome.answer = .error (.drift version recorded expected)) ↔
      ∃ line ∈ database.ledger.entries, Ledger.isDrifted line = true) ∧
    (∀ line ∈ database.ledger.entries, Ledger.isDrifted line = true →
      (∀ other ∈ database.ledger.entries, Ledger.isDrifted other = true → line.id ≤ other.id) →
      outcome.answer =
          .error (.drift line.id line.row.checksum (Revision.checksumOf? line.id)) ∧
        outcome.database = database) ∧
    ((∀ line ∈ database.ledger.entries, Ledger.isDrifted line = false) →
      outcome.answer = .ok (outcome.database.ledger.entries.map (·.id)).max? ∧
        Upgraded (Stamp.ofClock context.clock) database outcome.database) := by
  intro outcome
  rcases (ends_run reached.isSettled context draws).outcome with
    ⟨version, final, ⟨undrifted, largest, upgraded⟩, answered, kept⟩ |
    ⟨failure, final, ⟨kept, first, found, isDrift⟩, failed, saved⟩
  · have passes := List.find?_eq_none.mp undrifted
    refine ⟨⟨?_, ?_⟩, ?_, fun _ => ?_⟩
    · rintro ⟨_, _, _, failed⟩
      cases answered.symm.trans failed
    · rintro ⟨line, stored, drifted⟩
      exact absurd drifted (passes line stored)
    · exact fun line stored drifted _ => absurd drifted (passes line stored)
    · rw [← kept] at largest upgraded
      exact ⟨largest ▸ answered, upgraded⟩
  · obtain ⟨stored, drifted⟩ := Table.of_find? found
    rw [isDrift] at failed
    refine ⟨iff_of_true ⟨_, _, _, failed⟩ ⟨first, stored, drifted⟩, ?_, fun passes => ?_⟩
    · intro line isLine lineDrifted lowest
      have same : first = line := database.ledger.eq_of_id_eq stored isLine <|
        Int.le_antisymm (Table.le_of_find? found isLine lineDrifted) (lowest first stored drifted)
      exact ⟨same ▸ failed, saved.trans kept⟩
    · rw [passes first stored] at drifted
      cases drifted

/-- A database at the second revision, with an account and its token, that has lost that revision
from its ledger and lists one that there is not is upgraded. With other checksums it stays as it
is, and the lower version is named. -/
theorem run_newest_edited :
    let founded := (Database.atRevision .posts ⟨⟨0⟩, true⟩).after
      [{ request := .upsertAccount (some "a") (some (Time.Moment.utc ⟨60000000⟩))
         context := { clock := ⟨0⟩ } },
        { request := .registerToken (some "a") (some "t") (.integer 0) (.integer 0)
          context := { clock := ⟨0⟩ } }]
    let line (checksum : Option String) : LedgerLine :=
      { name := none, appliedOn := ⟨⟨0⟩, true⟩, checksum }
    let first := (Table.empty.put 1 (line (some Revision.initial.checksum))).put 99 (line none)
    let second := (Table.empty.put 1 (line none)).put 2 (line (some "0"))
    let outcome (ledger : Table LedgerLine) :=
      (run (some "head")).perform { clock := ⟨7⟩ } { founded with ledger } {}
    founded.Reached ∧ founded.tokens.entries.length = 1 ∧
      ((outcome first).answer = .ok ((outcome first).database.ledger.entries.map (·.id)).max? ∧
        Upgraded (Stamp.ofClock ⟨7⟩) { founded with ledger := first } (outcome first).database) ∧
      (outcome second).answer = .error (.drift 1 none (Revision.checksumOf? 1)) ∧
        (outcome second).database = { founded with ledger := second } := by
  intro founded line first second
  dsimp only
  have isReached : founded.Reached := (Database.Reached.founded .posts ⟨⟨0⟩, true⟩).after _
  have edited (ledger : Table LedgerLine) : { founded with ledger }.Reached :=
    isReached.edited ledger rfl
  refine ⟨isReached, by decide +kernel, ?_, ?_⟩
  · have passes : ∀ line ∈ first.entries, Ledger.isDrifted line = false := by decide +kernel
    exact (run_newest (edited first) { clock := ⟨7⟩ } {}).2.2 passes
  · have isLine : ⟨1, line none⟩ ∈ second.entries := by decide +kernel
    have drifted : Ledger.isDrifted ⟨1, line none⟩ = true := by decide +kernel
    have lowest : ∀ other ∈ second.entries, Ledger.isDrifted other = true → 1 ≤ other.id := by
      decide +kernel
    exact (run_newest (edited second) { clock := ⟨7⟩ } {}).2.1 _ isLine drifted lowest

end Migration

end Lookout
