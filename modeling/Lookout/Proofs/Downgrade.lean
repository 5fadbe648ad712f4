import Lookout.Proofs.SchemaChanges

/-!
# Downgrades

A downgrade changes the schema before it changes any row, and such changes take hold at once.
A target that leads nowhere changes nothing. Where the rows forbid a unique index that the way
down has to build, the changes made for the first revision stay, while the position and the
ledger still name that revision. A downgrade that gets to its target leaves the rows of the tables
that exist there, and forgets the revisions that it has reverted.
-/

namespace Lookout

open Operation Store
open Schema (Catalog Index Revision TableName)

/-- Whether an account watches a post for several applications or has several tokens. -/
def Database.isCrowded (database : Database) : Bool :=
  Migration.forbids database .watches [.ownerAccountId, .ownerDescriptorId] ||
    Migration.forbids database .tokens [.ownerAccountId]

namespace Migration

variable {context : Context} {session : Session} {database : Database}

/-- The changes of a downgrade lead to the position before. -/
theorem applyAll_downgrade (revision : Revision) :
    ∃ after, (Catalog.atPosition (some revision)).applyAll revision.downgrade = .ok after ∧
      after.Alike (.atPosition revision.previous?) := by
  cases revision <;> exact ⟨_, rfl, ⟨by decide, by decide⟩⟩

/-- Of the revisions only one forbids its revert. -/
theorem areForbidden_downgrade (database : Database) (revision : Revision) :
    areForbidden database revision.downgrade =
      (decide (revision = .applications) && database.isCrowded) := by
  cases revision with
  | applications =>
      simp only [Revision.downgrade, areForbidden, isForbidden, remaining, Bool.false_or,
        Bool.or_false]
      rfl
  | _ => rfl

theorem ends_forget {number : Int} (storable : isStorable number = true)
    (present : session.current.catalog.hasTable .ledger = true) :
    (Ledger.forget (some number)).Ends context session
      (fun _ final => final.isOpen = true ∧ final.saved = session.saved ∧
        final.current = { session.current with ledger := session.current.ledger.erase number })
      (fun _ _ => False) := by
  have complete : session.current.missing? [.ledger] = none := by
    simp [Database.missing?, present]
  simp only [Ledger.forget, Option.elim_some, ends_bind, ends_log, ends_put, true_and, ends_rows,
    ends_fits, List.all_cons, Option.all_some, storable, List.all_nil, Bool.and_self,
    Bool.true_eq_false, imp_self, List.mem_cons, List.not_mem_nil, or_false, forall_eq,
    forall_const, ends_require, complete, reduceCtorEq, implies_true]
  rfl

/-- A database that has moved below a revision and has forgotten it. -/
def unrecorded (revision : Revision) (database : Database) : Database :=
  { database with
    position := revision.previous?
    ledger := if database.catalog.hasTable .ledger then database.ledger.erase revision.number
      else database.ledger }

/-- Moving the position down and forgetting a revision wait for the commit. -/
theorem ends_record (revision : Revision) :
    (do moveTo revision.previous?
        if ← Ledger.isPresent then Ledger.forget (some revision.number)).Ends context session
      (fun _ final => final.isOpen = true ∧ final.saved = session.saved ∧
        final.current = unrecorded revision session.current)
      (fun _ _ => False) := by
  have storable : isStorable revision.number = true := by
    cases revision <;> decide
  simp only [moveTo, Ledger.isPresent, ends_bind, ends_change, ends_database, ends_pure, ends_ite]
  constructor
  · intro present
    refine Ends.imp (ends_forget storable present) ?_ (fun _ _ never => never)
    rintro _ final ⟨isOpen, saved, current⟩
    refine ⟨isOpen, saved, current.trans ?_⟩
    unfold unrecorded
    rw [if_pos present]
  · intro absent
    refine ⟨trivial, trivial, ?_⟩
    unfold unrecorded
    rw [if_neg absent]

/-- The rows that are left where a revision has been reverted, under the catalog of the position
below, with the revision forgotten. -/
def reverted (revision : Revision) (catalog : Catalog) (database : Database) : Database :=
  unrecorded revision ((revision.downgrade.foldl remaining database).under catalog)

theorem isCrowded_reverted {revision : Revision} (above : revision ≠ .initial)
    (catalog : Catalog) (database : Database) :
    (reverted revision catalog database).isCrowded = database.isCrowded := by
  cases revision with
  | initial => exact absurd rfl above
  | _ => rfl

/-- A database that a way down has led from another one to a position: tables that exist there have
the rows that they had, and the ledger lists what it listed, without the revisions that were
reverted. -/
structure Lowered (before : Database) (revisions : List Revision) (position : Option Revision)
    (after : Database) : Prop where
  isAt : after.IsAt position
  rows : ∀ table, (Catalog.atPosition position).hasTable table = true →
    table ≠ .position → table ≠ .ledger → before.Agree after table
  lines : (Catalog.atPosition position).hasTable .ledger = true → ∀ line,
    line ∈ after.ledger.entries ↔
      line ∈ before.ledger.entries ∧ ∀ revision ∈ revisions, line.id ≠ revision.number

theorem Lowered.refl {position : Option Revision} (isAt : database.IsAt position) :
    Lowered database [] position database where
  isAt := isAt
  rows _ _ _ _ := .refl _ _
  lines _ _ := by simp

/-- Reverting a revision leads to the position below it. -/
theorem lowered_reverted (revision : Revision) {catalog : Catalog}
    (alike : catalog.Alike (.atPosition revision.previous?)) :
    Lowered database [revision] revision.previous? (reverted revision catalog database) where
  isAt := ⟨rfl, alike⟩
  rows table present unmoved other := by
    cases revision <;> cases table <;>
      first
        | exact absurd present (by decide)
        | exact absurd rfl unmoved
        | exact absurd rfl other
        | rfl
  lines present line := by
    have ledger : (reverted revision catalog database).ledger =
        if catalog.hasTable .ledger then
          (revision.downgrade.foldl remaining database).ledger.erase revision.number
        else (revision.downgrade.foldl remaining database).ledger := rfl
    have kept : (revision.downgrade.foldl remaining database).ledger = database.ledger := by
      cases revision with
      | initial => cases present
      | _ => rfl
    rw [ledger, alike.hasTable, present, if_pos rfl, kept]
    simp [Table.erase]

/-- Reverting a revision fails where the rows are crowded and the revision forbids that. -/
theorem ends_take {revision : Revision} (isAt : session.current.IsAt (some revision))
    (saved : session.isOpen = false → session.saved = session.current) :
    (take .downgrade revision).Ends context session
      (fun _ final =>
        ¬(revision = .applications ∧ session.current.isCrowded = true) ∧ final.isOpen = true ∧
          final.saved = held session revision.downgrade ∧
          ∃ catalog, catalog.Alike (.atPosition revision.previous?) ∧
            final.current = reverted revision catalog session.current)
      (fun failure final =>
        revision = .applications ∧ session.current.isCrowded = true ∧
          final.saved = held session revision.downgrade ∧ IsIntegrityFailure failure) := by
  obtain ⟨after, applied, afterAlike⟩ := applyAll_downgrade revision
  rw [take, ends_bind]
  refine (ends_alterAll isAt.catalog applied saved).imp ?_ ?_
  · rintro _ middle ⟨allowed, middleSaved, reached, reachedAlike, current⟩
    rw [areForbidden_downgrade] at allowed
    refine (ends_record revision).imp ?_ (fun _ _ never => never.elim)
    rintro _ final ⟨isOpen, finalSaved, recorded⟩
    exact ⟨by simpa using allowed, isOpen, finalSaved.trans middleSaved, reached,
      reachedAlike.trans afterAlike, recorded.trans (congrArg _ current)⟩
  · rintro _ final ⟨forbidden, finalSaved, integrity⟩
    rw [areForbidden_downgrade] at forbidden
    simp only [Bool.and_eq_true, decide_eq_true_eq] at forbidden
    exact ⟨forbidden.1, forbidden.2, finalSaved, integrity⟩

/-- Revisions in the order of a way down from a position to another one. -/
inductive Descends : Option Revision → List Revision → Option Revision → Prop where
  | nil (position : Option Revision) : Descends position [] position
  | cons {revision : Revision} {rest : List Revision} {last : Option Revision}
      (below : Descends revision.previous? rest last) :
      Descends (some revision) (revision :: rest) last

theorem descends_stepsBetween (position reached : Option Revision) :
    ∃ last, Descends position (Schema.stepsBetween .downgrade position reached) last := by
  refine ⟨if Revision.rank reached < Revision.rank position then reached else position, ?_⟩
  rcases position with _ | position <;> rcases reached with _ | reached
  · exact .nil none
  · cases reached <;> exact .nil none
  · cases position <;> repeat first | exact .nil _ | refine .cons ?_
  · cases position <;> cases reached <;> repeat first | exact .nil _ | refine .cons ?_

/-- A way down comes through no revision above its start. -/
theorem Descends.number_le {position last : Option Revision} {steps : List Revision}
    {revision : Revision} (descends : Descends position steps last) (passed : revision ∈ steps) :
    revision.number ≤ Revision.rank position := by
  induction descends with
  | nil => cases passed
  | @cons first rest last below ih =>
      rcases List.mem_cons.mp passed with rfl | later
      · exact Nat.le_refl _
      · have lower : Revision.rank first.previous? ≤ first.number := by
          cases first <;> decide
        exact Nat.le_trans (ih later) lower

/-- Tables at the end of a way down exist where it starts. -/
theorem Descends.hasTable {position last : Option Revision} {steps : List Revision}
    {table : TableName} (descends : Descends position steps last)
    (present : (Catalog.atPosition last).hasTable table = true) :
    (Catalog.atPosition position).hasTable table = true := by
  induction descends with
  | nil => exact present
  | @cons revision rest last below ih =>
      have lower := ih present
      cases revision <;> cases table <;> first | rfl | cases lower

/-- A way down goes on from where its first step has led. -/
theorem Lowered.cons {before middle after : Database} {revision : Revision}
    {rest : List Revision} {last : Option Revision}
    (first : Lowered before [revision] revision.previous? middle)
    (others : Lowered middle rest last after) (below : Descends revision.previous? rest last) :
    Lowered before (revision :: rest) last after where
  isAt := others.isAt
  rows table present unmoved other :=
    (first.rows table (below.hasTable present) unmoved other).trans
      (others.rows table present unmoved other)
  lines present line := by
    rw [others.lines present, first.lines (below.hasTable present), List.forall_mem_singleton,
      List.forall_mem_cons, and_assoc]

/-- Reverting revisions on a way down fails where the rows are crowded and one of the revisions
forbids that. Otherwise it leads down. -/
theorem ends_takeAll {position last : Option Revision} {steps : List Revision}
    (descends : Descends position steps last) (isAt : session.current.IsAt position)
    (saved : session.isOpen = false → session.saved = session.current) :
    (takeAll .downgrade steps).Ends context session
      (fun _ final => ¬(.applications ∈ steps ∧ session.current.isCrowded = true) ∧
        Lowered session.current steps last final.current)
      (fun failure final =>
        .applications ∈ steps ∧ session.current.isCrowded = true ∧ IsIntegrityFailure failure ∧
          ∃ revision, position = some revision ∧
            final.saved = held session revision.downgrade) := by
  induction descends generalizing session with
  | nil => simpa [takeAll] using Lowered.refl isAt
  | @cons revision rest last below ih =>
      rw [takeAll, ends_bind]
      refine (ends_take isAt saved).imp ?_ ?_
      · rintro _ middle ⟨allowed, isOpen, middleSaved, catalog, alike, current⟩
        have first : Lowered session.current [revision] revision.previous? middle.current :=
          current ▸ lowered_reverted revision alike
        -- A revision below the reverted one leaves the reverted one above the oldest.
        have same : .applications ∈ rest →
            middle.current.isCrowded = session.current.isCrowded := by
          intro passed
          rw [current]
          refine isCrowded_reverted ?_ _ _
          rintro rfl
          exact absurd (below.number_le passed) (by decide)
        refine (ih first.isAt (by simp [isOpen])).imp ?_ ?_
        · rintro _ final ⟨goesOn, others⟩
          refine ⟨?_, first.cons others below⟩
          rintro ⟨passed, crowded⟩
          rcases List.mem_cons.mp passed with isFirst | later
          · exact allowed ⟨isFirst.symm, crowded⟩
          · exact goesOn ⟨later, (same later).trans crowded⟩
        · rintro _ final ⟨later, crowded, integrity, _, _, finalSaved⟩
          have kept : final.saved = middle.saved := by
            simpa [held, isOpen] using finalSaved
          exact ⟨List.mem_cons_of_mem _ later, (same later).symm.trans crowded, integrity,
            revision, rfl, kept.trans middleSaved⟩
      · rintro _ final ⟨rfl, crowded, finalSaved, integrity⟩
        exact ⟨List.mem_cons_self, crowded, integrity, _, rfl, finalSaved⟩

/-- Whether the way down from a revision to a target goes through the revert of another one. -/
def Reverts (revision : Revision) (target : Option String) (other : Revision) : Prop :=
  ∃ text ∈ target, text.toList.contains ':' = false ∧
    ∃ steps, Schema.route .downgrade (some revision) text = .ok steps ∧ other ∈ steps

theorem descends_route {position : Option Revision} {text : String} {steps : List Revision}
    (routed : Schema.route .downgrade position text = .ok steps) :
    ∃ last, Descends position steps last := by
  unfold Schema.route at routed
  cases found : Schema.reached .downgrade position text with
  | error error =>
      rw [found] at routed
      cases routed
  | ok reached =>
      simp only [found, bind, Except.bind] at routed
      split at routed <;> cases routed
      exact descends_stepsBetween position reached

/-- A downgrade to a target that leads somewhere fails where the rows are crowded and a revision on
the way forbids that. Otherwise it leads down, and the answer is the last recorded version. -/
theorem ends_downgrade {revision : Revision} {text : String} {steps : List Revision}
    {last : Option Revision} (isAt : database.IsAt (some revision))
    (isSingle : text.toList.contains ':' = false)
    (routed : Schema.route .downgrade (some revision) text = .ok steps)
    (descends : Descends (some revision) steps last) (context : Context) (draws : Draws) :
    (downgrade (some text)).Ends context { saved := database, current := database, draws }
      (fun version final => ¬(.applications ∈ steps ∧ database.isCrowded = true) ∧
        version = final.saved.ledger.lastId? ∧ Lowered database steps last final.saved)
      (fun failure final =>
        .applications ∈ steps ∧ database.isCrowded = true ∧ IsIntegrityFailure failure ∧
          final.saved = progress revision.downgrade database) := by
  simp only [downgrade, single, isSingle, Bool.false_eq_true, if_false, ends_pure, lead, ends_bind,
    ends_database, isAt.position, Option.isNone_some, Bool.false_and, routed]
  refine (ends_takeAll descends isAt fun _ => rfl).imp ?_ ?_
  · rintro _ final ⟨allowed, lowered⟩
    exact ⟨allowed, rfl, lowered⟩
  · rintro failure final ⟨passed, crowded, integrity, _, same, saved⟩
    cases same
    exact ⟨passed, crowded, integrity, saved⟩

/-- A downgrade that fails has a target that leads nowhere, or the rows are crowded. -/
theorem downgrade_ends {revision : Revision} (isAt : database.IsAt (some revision))
    (target : Option String) (context : Context) (draws : Draws) :
    (downgrade target).Ends context { saved := database, current := database, draws }
      (fun _ _ => ¬(Reverts revision target .applications ∧ database.isCrowded = true))
      (fun _ final =>
        (¬Reverts revision target .applications ∧ final.saved = database) ∨
        (Reverts revision target .applications ∧ database.isCrowded = true ∧
          final.saved = progress revision.downgrade database)) := by
  rcases target with _ | text
  · exact .inl ⟨by simp [Reverts], rfl⟩
  cases ranged : text.toList.contains ':' with
  | true =>
      simp only [downgrade, ends_bind, single, ranged, if_true, ends_throw]
      exact .inl ⟨by simp_all [Reverts], trivial⟩
  | false =>
      cases routed : Schema.route .downgrade (some revision) text with
      | error error =>
          simp only [downgrade, single, ranged, Bool.false_eq_true, if_false, ends_pure, lead,
            ends_bind, ends_database, isAt.position, Option.isNone_some, Bool.false_and, routed,
            ends_throw]
          exact .inl ⟨by simp [Reverts, routed], trivial⟩
      | ok steps =>
          have reverts_iff : Reverts revision (some text) .applications ↔
              .applications ∈ steps := by
            simp_all [Reverts]
          obtain ⟨last, descends⟩ := descends_route routed
          simp only [reverts_iff]
          refine (ends_downgrade isAt ranged routed descends context draws).imp ?_ ?_
          · exact fun _ _ reached => reached.1
          · rintro _ final ⟨passed, crowded, -, saved⟩
            exact .inr ⟨passed, crowded, saved⟩

/-- Where the way down goes through a revision that rebuilds indexes, it starts with an index
that goes. -/
theorem progress_downgrade_ne {revision : Revision} (isAt : database.IsAt (some revision))
    {target : Option String} (reverts : Reverts revision target .applications) :
    progress revision.downgrade database ≠ database := by
  obtain ⟨text, _, _, steps, routed, passed⟩ := reverts
  obtain ⟨_, descends⟩ := descends_route routed
  have above := descends.number_le passed
  have stored : ∀ index : Index, index ∈ (Catalog.atPosition (some revision)).indexes →
      index ∈ database.catalog.indexes := fun _ => isAt.catalog.indexes.mem_iff.mpr
  cases revision with
  | initial => exact absurd above (by decide)
  | posts => exact absurd above (by decide)
  | applications =>
      exact progress_ne (stored (Revision.watchUniqueIndex true) (by decide)) (by decide)
  | invites =>
      exact progress_ne (stored ⟨.inviteExpiresOn, false, [.expiresOn]⟩ (by decide)) (by decide)

/-- A downgrade that fails leaves everything as it was, unless it goes through a revision that
takes back the application of tokens and watches and the rows are crowded. -/
theorem downgrade_keeps_iff {revision : Revision} (isAt : database.IsAt (some revision))
    (target : Option String) (context : Context) (draws : Draws) :
    ((∃ failure, ((downgrade target).perform context database draws).answer = .error failure) →
      ((downgrade target).perform context database draws).database = database) ↔
      ¬(Reverts revision target .applications ∧ database.isCrowded = true) := by
  have ends := downgrade_ends isAt target context draws
  unfold Ends at ends
  unfold Operation.perform EStateM.run
  cases result : downgrade target context { saved := database, current := database, draws } with
  | ok answer final =>
      rw [result] at ends
      simp only [reduceCtorEq, exists_false, false_implies, true_iff]
      exact ends
  | error failure final =>
      rw [result] at ends
      simp only [Except.error.injEq, exists_eq', true_implies]
      rcases ends with ⟨spared, saved⟩ | ⟨reverts, crowded, saved⟩
      · simp [spared, saved]
      · have changed := progress_downgrade_ne isAt reverts
        simp [reverts, crowded, saved, changed]

/-- An account is made and watches a post for two applications. -/
def crowding : List Turn :=
  [{ request := .upsertAccount (some "a") (some (Time.Moment.utc ⟨60000000⟩))
     context := { clock := ⟨0⟩ } },
    { request := .watchPost (some "a") (some "s") (some "b") (some 1) (some 2) (some 0) (.integer 0)
      context := { clock := ⟨0⟩ } },
    { request := .watchPost (some "a") (some "s") (some "b") (some 1) (some 2) (some 0) (.integer 1)
      context := { clock := ⟨0⟩ } }]

/-- A crowded database stays as it is where the target leads nowhere. -/
theorem downgrade_keeps_crowded :
    let database := (Database.atRevision .invites ⟨⟨0⟩, true⟩).after crowding
    let outcome := (downgrade (some "0005")).perform { clock := ⟨0⟩ } database {}
    database.isCrowded = true ∧ database.IsAt (some .invites) ∧
      (∃ failure, outcome.answer = .error failure) ∧ outcome.database = database := by
  intro database outcome
  have isAt : database.IsAt (some .invites) := (Database.isAt_atRevision .invites _).after crowding
  have failed : ∃ failure, outcome.answer = .error failure := ⟨_, rfl⟩
  have crowded : database.isCrowded = true := by decide +kernel
  refine ⟨crowded, isAt, failed, ?_⟩
  refine (downgrade_keeps_iff isAt (some "0005") { clock := ⟨0⟩ } {}).mpr ?_ failed
  rintro ⟨⟨_, same, _, steps, routed, _⟩, _⟩
  cases same
  cases routed

/-- On the way to the second revision the invites are gone when the watches turn out to be
crowded. The position and the ledger still name the fourth. -/
theorem downgrade_crowded :
    let database := (Database.atRevision .invites ⟨⟨0⟩, true⟩).after crowding
    let outcome := (downgrade (some "0002")).perform { clock := ⟨0⟩ } database {}
    outcome.answer = .error (.store (.duplicate .watches [.ownerAccountId, .ownerDescriptorId])) ∧
      database.catalog.hasTable .invites = true ∧
      outcome.database.catalog.hasTable .invites = false ∧
      outcome.database.position = some .invites ∧ outcome.database.ledger.has 4 = true := by
  refine ⟨rfl, ?_, ?_, ?_, ?_⟩ <;> decide +kernel

end Migration

end Lookout
