import Lookout.Proofs.Lasting

/-!
# Upgrades

The rows of an orderly database never forbid the way up: a revision makes unique indexes over
tables that are new, or over the columns of an older unique index and more. So only a line of the
ledger that has drifted can stop an upgrade that leads somewhere, and the upgrade changes no rows.
-/

namespace Lookout

open Operation Store
open Schema (Catalog Change Column Direction Revision TableName)
open Time (Stamp)

namespace Schema

/-- Whether a change spares the rows that are in order under a catalog: it drops no table, and a
new unique index is over a table that does not exist yet or over the columns of an older one. -/
def Change.isHarmless (catalog : Catalog) : Change → Bool
  | .createIndex index =>
      !index.unique || !catalog.hasTable index.table ||
        (catalog.uniqueKeys index.table).any fun key => key.all index.columns.contains
  | .dropTable _ => false
  | _ => true

/-- Under the catalog of the position before, all changes that lead to a revision are harmless. -/
theorem isHarmless_of_mem_upgrade {revision : Revision} {step : Change}
    (made : step ∈ revision.upgrade) :
    step.isHarmless (.atPosition revision.previous?) = true := by
  have all : revision.upgrade.all (Change.isHarmless (.atPosition revision.previous?)) = true := by
    cases revision <;> decide
  exact List.all_eq_true.mp all step made

theorem Catalog.Alike.mem_uniqueKeys {catalog other : Catalog} (alike : catalog.Alike other)
    {table : TableName} {key : List Column} :
    key ∈ catalog.uniqueKeys table ↔ key ∈ other.uniqueKeys table := by
  simp only [uniqueKeys, indexesOf, List.mem_map, List.mem_filter, alike.indexes.mem_iff]

end Schema

namespace Migration

variable {context : Context} {session : Session} {database : Database} {catalog : Catalog}

/-- Rows in order allow a harmless change. -/
theorem isForbidden_of_isHarmless (orderly : database.IsOrderly)
    (alike : database.catalog.Alike catalog) {step : Change}
    (harmless : step.isHarmless catalog = true) : isForbidden database step = false := by
  cases step with
  | createIndex index =>
      simp only [Change.isHarmless, Bool.or_eq_true, Bool.not_eq_true', List.any_eq_true,
        List.all_eq_true, List.contains_eq_mem, decide_eq_true_eq] at harmless
      rcases harmless with (plain | missing) | ⟨key, unique, among⟩
      · simp [isForbidden, plain]
      · rw [← alike.hasTable] at missing
        have allowed : forbids database index.table index.columns = false := by
          rw [forbids_eq_false_iff, orderly.tidy _ missing]
          exact .nil
        simp [isForbidden, allowed]
      · rw [← alike.mem_uniqueKeys] at unique
        have allowed : forbids database index.table index.columns = false :=
          forbids_eq_false_iff.mpr ((orderly.integral.unlike _ key unique).mono among)
        simp [isForbidden, allowed]
  | _ => rfl

/-- Nothing forbids the changes of an upgrade, and they leave the rows alone. -/
theorem areForbidden_upgrade (orderly : database.IsOrderly) {revision : Revision}
    (isAt : database.IsAt revision.previous?) :
    areForbidden database revision.upgrade = false ∧
      revision.upgrade.foldl remaining database = database := by
  have harmless (step : Change) (made : step ∈ revision.upgrade) :=
    Schema.isHarmless_of_mem_upgrade made
  generalize revision.upgrade = changes at harmless
  induction changes with
  | nil => exact ⟨rfl, rfl⟩
  | cons step rest ih =>
      have first := harmless step (.head _)
      have spared : remaining database step = database := by
        cases step with
        | dropTable table => cases first
        | _ => rfl
      rw [areForbidden, List.foldl_cons, spared,
        isForbidden_of_isHarmless orderly isAt.catalog first]
      exact ih fun other later => harmless other (.tail _ later)

/-- The changes of an upgrade lead from the position before. -/
theorem applyAll_upgrade (revision : Revision) :
    ∃ after, (Catalog.atPosition revision.previous?).applyAll revision.upgrade = .ok after ∧
      after.Alike (.atPosition (some revision)) := by
  cases revision <;> exact ⟨_, rfl, ⟨by decide, by decide⟩⟩

/-- There is a ledger at every revision. -/
theorem hasTable_ledger {revision : Revision} (isAt : database.IsAt (some revision)) :
    database.catalog.hasTable .ledger = true := by
  rw [isAt.catalog.hasTable]
  cases revision <;> decide

/-- A database at a position, with the same rows as another one and revisions recorded. -/
structure Advanced (appliedOn : Stamp) (before : Database) (revisions : List Revision)
    (position : Option Revision) (after : Database) : Prop where
  isAt : after.IsAt position
  orderly : after.IsOrderly
  same : after = { before with
    catalog := after.catalog
    position
    ledger := revisions.foldl (Ledger.noted appliedOn) before.ledger }

/-- Applying a revision fails only where a line of the ledger has drifted. -/
theorem ends_take_upgrade {revision : Revision} (orderly : session.current.IsOrderly)
    (isAt : session.current.IsAt revision.previous?)
    (saved : session.isOpen = false → session.saved = session.current) :
    (take .upgrade revision).Ends context session
      (fun _ final => final.isOpen = true ∧
        Advanced (Stamp.ofClock context.clock) session.current [revision] (some revision)
          final.current)
      (fun _ _ => ∃ line ∈ session.current.ledger.entries, Ledger.isDrifted line = true) := by
  obtain ⟨after, applied, afterAlike⟩ := applyAll_upgrade revision
  obtain ⟨allowed, spared⟩ := areForbidden_upgrade orderly isAt
  have taken : (take .upgrade revision).Ends context session
      (fun _ final => final.isOpen = true ∧ final.current.IsAt (some revision) ∧
        final.current = { session.current with
          catalog := final.current.catalog
          position := some revision
          ledger := Ledger.noted (Stamp.ofClock context.clock) session.current.ledger revision })
      (fun _ _ => ∃ line ∈ session.current.ledger.entries, Ledger.isDrifted line = true) := by
    rw [take, ends_bind]
    refine (ends_alterAll isAt.catalog applied saved).imp ?_ ?_
    · rintro _ middle ⟨-, -, reached, reachedAlike, current⟩
      rw [spared] at current
      have atRevision : { middle.current with position := some revision }.IsAt (some revision) :=
        ⟨rfl, by rw [current]; exact reachedAlike.trans afterAlike⟩
      simp only [moveTo, ends_bind, ends_change, ends_pure]
      refine (Ledger.ends_apply (hasTable_ledger atRevision) rfl).imp ?_ ?_
      · rintro _ final ⟨isOpen, -, same⟩
        rw [same]
        refine ⟨isOpen, ⟨rfl, atRevision.catalog⟩, ?_⟩
        rw [current]
        rfl
      · rintro _ _ ⟨line, stored, drifted⟩
        rw [current] at stored
        exact ⟨line, stored, drifted⟩
    · rintro _ _ ⟨forbidden, -⟩
      rw [allowed] at forbidden
      cases forbidden
  -- That the database is orderly again lasts through any change, whatever the rows are.
  refine (taken.and (isLasting_isOrderly.ends_take .upgrade revision orderly)).imp ?_ ?_
  · rintro _ final ⟨⟨isOpen, isAt, same⟩, orderly⟩
    exact ⟨isOpen, isAt, orderly, same⟩
  · exact fun _ _ failed => failed.1

/-- Revisions in the order of a way up from a position to another one. -/
inductive Ascends : Option Revision → List Revision → Option Revision → Prop where
  | nil (position : Option Revision) : Ascends position [] position
  | cons {position last : Option Revision} {revision : Revision} {rest : List Revision}
      (next : revision.previous? = position) (above : Ascends (some revision) rest last) :
      Ascends position (revision :: rest) last

theorem ascends_stepsBetween (position reached : Option Revision) :
    ∃ last, Ascends position (Schema.stepsBetween .upgrade position reached) last := by
  refine ⟨if Revision.rank position < Revision.rank reached then reached else position, ?_⟩
  rcases position with _ | position <;> rcases reached with _ | reached
  · exact .nil none
  · cases reached <;> repeat first | exact .nil _ | refine .cons rfl ?_
  · cases position <;> exact .nil _
  · cases position <;> cases reached <;> repeat first | exact .nil _ | refine .cons rfl ?_

theorem ascends_route {position : Option Revision} {text : String} {steps : List Revision}
    (routed : Schema.route .upgrade position text = .ok steps) :
    ∃ last, Ascends position steps last := by
  unfold Schema.route at routed
  cases found : Schema.reached .upgrade position text with
  | error error =>
      rw [found] at routed
      cases routed
  | ok reached =>
      simp only [found, bind, Except.bind, reduceCtorEq, false_and, if_false] at routed
      cases routed
      exact ascends_stepsBetween position reached

theorem ascends_head (position : Option Revision) :
    Ascends position (Revision.between position (some .head)) (some .head) := by
  rcases position with _ | position
  · repeat first | exact .nil _ | refine .cons rfl ?_
  · cases position <;> repeat first | exact .nil _ | refine .cons rfl ?_

/-- Applying revisions on a way up fails only where a line of the ledger has drifted. -/
theorem ends_takeAll_upgrade {position last : Option Revision} {steps : List Revision}
    (ascends : Ascends position steps last) (orderly : session.current.IsOrderly)
    (isAt : session.current.IsAt position)
    (saved : session.isOpen = false → session.saved = session.current) :
    (takeAll .upgrade steps).Ends context session
      (fun _ final =>
        Advanced (Stamp.ofClock context.clock) session.current steps last final.current)
      (fun _ _ => ∃ line ∈ session.current.ledger.entries, Ledger.isDrifted line = true) := by
  induction ascends generalizing session with
  | nil position =>
      refine ⟨isAt, orderly, ?_⟩
      rw [← isAt.position]
      rfl
  | @cons position last revision rest next above ih =>
      subst next
      rw [takeAll, ends_bind]
      refine (ends_take_upgrade orderly isAt saved).imp ?_ (fun _ _ drifted => drifted)
      rintro _ middle ⟨isOpen, advanced⟩
      have ledger : middle.current.ledger =
          Ledger.noted (Stamp.ofClock context.clock) session.current.ledger revision := by
        rw [advanced.same]
        rfl
      refine (ih advanced.orderly advanced.isAt (by simp [isOpen])).imp ?_ ?_
      · rintro _ final ⟨finalAt, finalOrderly, same⟩
        refine ⟨finalAt, finalOrderly, ?_⟩
        rw [same, ledger, advanced.same]
        rfl
      · rintro _ _ ⟨line, stored, drifted⟩
        rw [ledger, Ledger.mem_noted] at stored
        rcases stored with old | ⟨-, rfl⟩
        · exact ⟨line, old, drifted⟩
        · rw [Ledger.isDrifted_lineOf] at drifted
          cases drifted

end Migration

end Lookout
