import Lookout.Proofs.Recorded

/-!
# Down and up again

The oldest two revisions allow an account one token, and one watch of a post. A downgrade to one of
them, or below them, fails where the rows of a newer revision are crowded, and nowhere else. An
upgrade after it brings back what was dropped, without its rows.
-/

namespace Lookout

open Operation Store
open Schema (Catalog Column Revision TableName)
open Time (Stamp)

variable {database : Database}

namespace Migration

/-- Rows have duplicates in the columns of an index where two of them have the same key. -/
theorem hasDuplicate_iff {α κ : Type} [Relation α] [DecidableEq κ] {columns : List Column}
    (key : α → κ) (alike_iff : ∀ left right : α,
      Relation.alike columns left right = true ↔ key right = key left)
    {entries : List (Entry α)} :
    hasDuplicate columns entries = true ↔
      ∃ shared, 2 ≤ entries.countP fun entry => key entry.row = shared := by
  induction entries with
  | nil => simp [hasDuplicate]
  | cons entry rest ih =>
      have first : (rest.any fun other => Relation.alike columns entry.row other.row) = true ↔
          1 ≤ rest.countP fun other => key other.row = key entry.row := by
        simp only [List.any_eq_true, alike_iff, Nat.one_le_iff_ne_zero, ← Nat.pos_iff_ne_zero,
          List.countP_pos_iff, decide_eq_true_eq]
      rw [hasDuplicate, Bool.or_eq_true, first, ih]
      constructor
      · rintro (same | ⟨shared, twice⟩)
        · exact ⟨key entry.row, by simpa [List.countP_cons] using same⟩
        · exact ⟨shared, Nat.le_trans twice (by simp [List.countP_cons])⟩
      · rintro ⟨shared, twice⟩
        rw [List.countP_cons] at twice
        by_cases isFirst : key entry.row = shared
        · subst isFirst
          exact .inl (by simpa using twice)
        · exact .inr ⟨shared, by simpa [isFirst] using twice⟩

end Migration

/-- Rows are crowded where an account has several tokens or watches a post several times. -/
theorem Database.isCrowded_iff :
    database.isCrowded = true ↔
      (∃ account, 2 ≤ database.tokens.count fun entry => entry.row.account = account) ∨
        ∃ account descriptor, 2 ≤ database.watches.count fun entry =>
          entry.row.account = account ∧ entry.row.descriptor = descriptor := by
  have tokens : Migration.hasDuplicate [.ownerAccountId] database.tokens.entries = true ↔
      ∃ account, 2 ≤ database.tokens.count fun entry => entry.row.account = account :=
    Migration.hasDuplicate_iff (fun row : Token => row.account) fun left right => by
      simp [Relation.alike, Relation.keyOf, Relation.cell]
  have watches : Migration.hasDuplicate [.ownerAccountId, .ownerDescriptorId]
        database.watches.entries = true ↔
      ∃ shared, 2 ≤ database.watches.count fun entry =>
        (entry.row.account, entry.row.descriptor) = shared :=
    Migration.hasDuplicate_iff (fun row : Watch => (row.account, row.descriptor))
      fun left right => by simp [Relation.alike, Relation.keyOf, Relation.cell]
  simp only [Prod.exists, Prod.mk.injEq] at watches
  rw [isCrowded, Bool.or_eq_true, or_comm]
  exact or_congr tokens watches

namespace Migration

/-- A way below the third revision from there or from the newest one goes through its revert. -/
theorem descends_below {revision : Revision} {target : Option Revision} {text : String}
    (late : revision = .applications ∨ revision = .invites)
    (aimed : (target, text) ∈ [(some Revision.posts, "0002"), (some .initial, "0001"),
      (none, "base")]) :
    text.toList.contains ':' = false ∧
      ∃ steps, Schema.route .downgrade (some revision) text = .ok steps ∧
        Descends (some revision) steps target ∧ .applications ∈ steps := by
  simp only [List.mem_cons, Prod.mk.injEq, List.not_mem_nil, or_false] at aimed
  rcases late with rfl | rfl <;> rcases aimed with ⟨rfl, rfl⟩ | ⟨rfl, rfl⟩ | ⟨rfl, rfl⟩
  all_goals
    refine ⟨by decide, _, rfl, ?_, by decide⟩
    repeat first | exact .nil _ | refine .cons ?_

/-- A maintained database is upgraded to the newest revision, which is the last one recorded. -/
theorem run_maintained (maintained : database.Maintained) (context : Context) (draws : Draws) :
    let outcome := (run (some "head")).perform context database draws
    outcome.answer = .ok (some 4) ∧
      Upgraded (Stamp.ofClock context.clock) database outcome.database := by
  intro outcome
  obtain ⟨answered, upgraded⟩ := run_undrifted maintained.reached.isSettled
    maintained.isRecorded.undrifted context draws
  have versions := (maintained.moved (.run answered)).isRecorded.versions
  rw [upgraded.isAt.position] at versions
  refine ⟨answered.trans ?_, upgraded⟩
  rw [versions]
  rfl

/-- Tables that are missing before an upgrade are as in an empty database after it. -/
theorem Upgraded.agree_empty {appliedOn : Stamp} {before after : Database} {table : TableName}
    (upgraded : Upgraded appliedOn before after)
    (missing : before.catalog.hasTable table = false) (unmoved : table ≠ .position)
    (other : table ≠ .ledger) : after.Agree {} table := by
  have none := (upgraded.made table missing).2 other
  cases table with
  | position => exact absurd rfl unmoved
  | ledger => exact absurd rfl other
  | _ => exact Table.ext (List.map_eq_nil_iff.mp none)

/-- The way back up from the first or the second revision: the rows that a downgrade has left are
there, and tables that it has dropped are empty. -/
theorem Lowered.upgraded {before middle after : Database} {steps : List Revision}
    {target : Option Revision} {appliedOn : Stamp} (lowered : Lowered before steps target middle)
    (upgraded : Upgraded appliedOn middle after)
    (among : target = some .posts ∨ target = some .initial) :
    (∀ table ∈ [TableName.accounts, .tokens, .threads, .descriptors, .replies, .watches, .journal],
      before.Agree after table) ∧
    after.posts = (if target = some .posts then before.posts else .empty) ∧
    after.invites = .empty := by
  have back {table : TableName} (present : (Catalog.atPosition target).hasTable table = true)
      (unmoved : table ≠ .position) (other : table ≠ .ledger) : before.Agree after table :=
    (lowered.rows table present unmoved other).trans (upgraded.rows table unmoved other)
  have noInvites : middle.catalog.hasTable .invites = false := by
    rw [lowered.isAt.catalog.hasTable]
    rcases among with rfl | rfl <;> decide
  refine ⟨fun table isOne => ?_, ?_, upgraded.agree_empty noInvites nofun nofun⟩
  · refine back ?_ ?_ ?_
    · rcases among with rfl | rfl <;> revert table <;> decide
    all_goals
      rintro rfl
      revert isOne
      decide
  · rcases among with rfl | rfl
    · have same : before.Agree after .posts := back (by decide) nofun nofun
      exact same.symm
    · have noPosts : middle.catalog.hasTable .posts = false := by
        rw [lowered.isAt.catalog.hasTable]
        decide
      exact upgraded.agree_empty noPosts nofun nofun

/-- From the third revision or the newest one a downgrade below the third fails exactly where the
rows are crowded, and then it is refused to keep them whole. Otherwise it leaves its target, with
the versions up to it in the ledger and without a ledger below the first revision, and the tables
that are left have the rows that they had. An upgrade from there leads to the newest revision again,
with these rows, and what was dropped is empty. -/
theorem downgrade_round_trip (maintained : database.Maintained) {revision : Revision}
    (position : database.position = some revision)
    (late : revision = .applications ∨ revision = .invites) {target : Option Revision}
    {text : String} (aimed : (target, text) ∈
      [(some Revision.posts, "0002"), (some .initial, "0001"), (none, "base")])
    (context : Context) (draws : Draws) :
    let outcome := (downgrade (some text)).perform context database draws
    ((∃ error, outcome.answer = .error (.store error) ∧ error.isIntegrity = true) ↔
      (∃ account, 2 ≤ database.tokens.count fun entry => entry.row.account = account) ∨
        ∃ account descriptor, 2 ≤ database.watches.count fun entry =>
          entry.row.account = account ∧ entry.row.descriptor = descriptor) ∧
    ((∃ error, outcome.answer = .error (.store error) ∧ error.isIntegrity = true) ∨
      ∃ version, outcome.answer = .ok version) ∧
    ∀ version, outcome.answer = .ok version →
      outcome.database.IsAt target ∧
      outcome.database.ledger.entries.map (·.id) =
        (Revision.between none target).map (fun applied => (applied.number : Int)) ∧
      outcome.database.catalog.hasTable .ledger = target.isSome ∧
      (∀ table, outcome.database.catalog.hasTable table = true →
        table ≠ .position → table ≠ .ledger → database.Agree outcome.database table) ∧
      (target = some .posts ∨ target = some .initial → ∀ (later : Context) (supply : Draws),
        let again := (run (some "head")).perform later outcome.database supply
        again.answer = .ok (some 4) ∧ again.database.IsAt (some .invites) ∧
        (∀ table ∈
            [TableName.accounts, .tokens, .threads, .descriptors, .replies, .watches, .journal],
          database.Agree again.database table) ∧
        again.database.posts = (if target = some .posts then database.posts else .empty) ∧
        again.database.invites = .empty) := by
  intro outcome
  have isAt : database.IsAt (some revision) := by
    rcases maintained.reached.isSettled.placed with ⟨absent, -⟩ | isAt
    · rw [position] at absent
      cases absent
    · exact position ▸ isAt
  obtain ⟨isSingle, steps, routed, descends, passed⟩ := descends_below late aimed
  rw [← Database.isCrowded_iff]
  rcases (ends_downgrade isAt isSingle routed descends context draws).outcome with
    ⟨version, final, ⟨allowed, -, lowered⟩, answered, saved⟩ |
    ⟨failure, final, ⟨-, crowded, ⟨error, rfl, isIntegrity⟩, -⟩, failed, -⟩
  · rw [← saved] at lowered
    have lowered : Lowered database steps target outcome.database := lowered
    have answered : outcome.answer = .ok version := answered
    have left : outcome.database.Maintained := maintained.moved (.downgrade answered)
    refine ⟨iff_of_false ?_ fun crowded => allowed ⟨passed, crowded⟩, .inr ⟨_, answered⟩, ?_⟩
    · rintro ⟨error, failed, -⟩
      cases answered.symm.trans failed
    intro _ _
    have versions := left.isRecorded.versions
    rw [lowered.isAt.position] at versions
    refine ⟨lowered.isAt, versions, ?_, ?_, fun among later supply => ?_⟩
    · rw [lowered.isAt.catalog.hasTable]
      rcases target with _ | target
      · rfl
      · cases target <;> rfl
    · intro table present
      rw [lowered.isAt.catalog.hasTable] at present
      exact lowered.rows table present
    · obtain ⟨again, upgraded⟩ := run_maintained left later supply
      exact ⟨again, upgraded.isAt, lowered.upgraded upgraded among⟩
  · have failed : outcome.answer = .error (.store error) := failed
    have refused : ∃ error, outcome.answer = .error (.store error) ∧ error.isIntegrity = true :=
      ⟨error, failed, isIntegrity⟩
    refine ⟨iff_of_true refused crowded, .inl refused, fun version answered => ?_⟩
    cases failed.symm.trans answered

/-- A database in which an account watches a post for one application. -/
def watching : Database :=
  (Database.atRevision .invites ⟨⟨0⟩, true⟩).after (crowding.take 2)

/-- The watch is there after a downgrade to the second revision, and after an upgrade again. -/
theorem downgrade_round_trip_watch :
    let outcome := (downgrade (some "0002")).perform { clock := ⟨0⟩ } watching {}
    let again := (run (some "head")).perform { clock := ⟨1⟩ } outcome.database {}
    watching.Maintained ∧ watching.position = some .invites ∧ watching.watches.has 1 = true ∧
      (∃ version, outcome.answer = .ok version) ∧ watching.Agree outcome.database .watches ∧
      again.answer = .ok (some 4) ∧ watching.Agree again.database .watches := by
  dsimp only
  have maintained : watching.Maintained :=
    (Database.Maintained.founded .invites ⟨⟨0⟩, true⟩).after _
  have position : watching.position = some .invites :=
    ((Database.isAt_atRevision .invites ⟨⟨0⟩, true⟩).after _).position
  have aimed : (some Revision.posts, "0002") ∈
      [(some Revision.posts, "0002"), (some .initial, "0001"), (none, "base")] := .head _
  have watches : watching.watches.has 1 = true := by decide +kernel
  have spacious : watching.isCrowded ≠ true := by decide +kernel
  obtain ⟨refused_iff, ends, leaves⟩ :=
    downgrade_round_trip maintained position (.inr rfl) aimed { clock := ⟨0⟩ } {}
  rw [← Database.isCrowded_iff] at refused_iff
  obtain ⟨version, answered⟩ := ends.resolve_left (mt refused_iff.mp spacious)
  obtain ⟨isAt, -, -, rows, back⟩ := leaves version answered
  obtain ⟨upgraded, -, same, -⟩ := back (.inl rfl) { clock := ⟨1⟩ } {}
  have kept := rows .watches (by rw [isAt.catalog.hasTable]; decide) nofun nofun
  exact ⟨maintained, position, watches, ⟨version, answered⟩, kept, upgraded,
    same .watches (by decide)⟩

end Migration

end Lookout
