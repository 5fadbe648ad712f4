import Lookout.Proofs.Postponed

/-!
# Recorded revisions

As long as nobody edits the ledger, it lists the revisions up to the position of the schema and no
other version, each with its checksum. Requests leave the ledger alone, a way up records what it
applies, and a way down forgets what it reverts.
-/

namespace Lookout

open Operation Store
open Schema (Direction Revision)
open Time (Stamp)

variable {database : Database} {draws : Draws} {context : Context}

namespace Schema.Revision

/-- Of the revisions up to a position none is missing. -/
theorem mem_between_none {position : Option Revision} {revision : Revision} :
    revision ∈ between none position ↔ revision.number ≤ rank position := by
  have isRevision : revision ∈ all := by cases revision <;> decide
  have positive : rank none < revision.number := by cases revision <;> decide
  simp [between, isRevision, positive]

/-- The revisions below another one are those up to it, itself apart. -/
theorem number_le_previous_iff {revision other : Revision} :
    other.number ≤ rank revision.previous? ↔ other.number ≤ revision.number ∧ other ≠ revision := by
  cases revision <;> cases other <;> decide

/-- Versions of revisions ascend. -/
theorem pairwise_between (position : Option Revision) :
    ((between none position).map fun revision => (revision.number : Int)).Pairwise (· < ·) := by
  rcases position with _ | position
  · decide
  · cases position <;> decide

end Schema.Revision

namespace Migration

variable {before after : Database} {position last : Option Revision} {steps : List Revision}

/-- A way up adds its steps to the revisions up to its start. -/
theorem Ascends.number_le_iff (ascends : Ascends position steps last) (revision : Revision) :
    revision.number ≤ Revision.rank last ↔
      revision.number ≤ Revision.rank position ∨ revision ∈ steps := by
  induction ascends with
  | nil => simp
  | @cons position last first rest next above ih =>
      subst next
      rw [ih, Revision.number_le_previous_iff, List.mem_cons, Revision.rank]
      by_cases isFirst : revision = first
      · simp [isFirst]
      · simp [isFirst]

/-- A way down takes its steps from the revisions up to its start. -/
theorem Descends.number_le_iff (descends : Descends position steps last) (revision : Revision) :
    revision.number ≤ Revision.rank last ↔
      revision.number ≤ Revision.rank position ∧ revision ∉ steps := by
  induction descends with
  | nil => simp
  | @cons first rest last below ih =>
      rw [ih, Revision.number_le_previous_iff, List.mem_cons, not_or, Revision.rank, and_assoc]

end Migration

namespace Database

/-- The ledger of a database lists the revisions up to its position, as they are. -/
structure IsRecorded (database : Database) : Prop where
  versions : database.ledger.entries.map (·.id) =
    (Revision.between none database.position).map fun revision => (revision.number : Int)
  undrifted : ∀ line ∈ database.ledger.entries, Ledger.isDrifted line = false

/-- A version is listed where it is that of a revision up to the position. -/
theorem IsRecorded.listed (recorded : database.IsRecorded) (version : Int) :
    (∃ line ∈ database.ledger.entries, line.id = version) ↔
      ∃ revision : Revision, revision.number ≤ Revision.rank database.position ∧
        revision.number = version := by
  have mem_iff : version ∈ database.ledger.entries.map (·.id) ↔
      version ∈ (Revision.between none database.position).map
        fun revision => (revision.number : Int) :=
    Iff.of_eq (congrArg _ recorded.versions)
  simpa only [List.mem_map, Revision.mem_between_none] using mem_iff

/-- What lists the versions of these revisions and no other lists them in their order. -/
theorem isRecorded_of_listed
    (listed : ∀ version : Int, (∃ line ∈ database.ledger.entries, line.id = version) ↔
      ∃ revision : Revision, revision.number ≤ Revision.rank database.position ∧
        revision.number = version)
    (undrifted : ∀ line ∈ database.ledger.entries, Ledger.isDrifted line = false) :
    database.IsRecorded := by
  have ascending := List.pairwise_map.mpr database.ledger.ascending
  refine ⟨ascending.eq_of_mem_iff (Revision.pairwise_between _) fun version => ?_, undrifted⟩
  simpa only [List.mem_map, Revision.mem_between_none] using listed version

theorem isRecorded_fresh (appliedOn : Stamp) (position : Option Revision) :
    (fresh appliedOn position).IsRecorded := by
  refine ⟨?_, fun _ stored => isDrifted_fresh stored⟩
  rcases position with _ | position
  · rfl
  · cases position <;> rfl

end Database

namespace Migration

variable {before after : Database} {position last : Option Revision} {steps : List Revision}

/-- A way up from a database with its revisions recorded leads to such a database. -/
theorem Advanced.isRecorded {appliedOn : Stamp}
    (advanced : Advanced appliedOn before steps last after)
    (ascends : Ascends before.position steps last) (recorded : before.IsRecorded) :
    after.IsRecorded := by
  have lines (line : Entry LedgerLine) : line ∈ after.ledger.entries ↔
      line ∈ before.ledger.entries ∨ ∃ revision ∈ steps,
        before.ledger.has revision.number = false ∧ line = Ledger.lineOf appliedOn revision := by
    rw [advanced.same]
    exact Ledger.mem_foldl_noted
  refine Database.isRecorded_of_listed (fun version => ?_) ?_
  · rw [advanced.isAt.position]
    constructor
    · rintro ⟨line, stored, rfl⟩
      rcases (lines line).mp stored with old | ⟨revision, isStep, -, rfl⟩
      · obtain ⟨revision, below, same⟩ := (recorded.listed _).mp ⟨line, old, rfl⟩
        exact ⟨revision, (ascends.number_le_iff revision).mpr (.inl below), same⟩
      · exact ⟨revision, (ascends.number_le_iff revision).mpr (.inr isStep), rfl⟩
    · rintro ⟨revision, below, rfl⟩
      cases known : before.ledger.has revision.number with
      | true =>
          obtain ⟨line, old, same⟩ := Table.has_iff.mp known
          exact ⟨line, (lines line).mpr (.inl old), same⟩
      | false =>
          have isStep : revision ∈ steps := by
            refine ((ascends.number_le_iff revision).mp below).resolve_left fun lower => ?_
            have old := Table.has_iff.mpr ((recorded.listed _).mpr ⟨revision, lower, rfl⟩)
            rw [known] at old
            cases old
          exact ⟨_, (lines _).mpr (.inr ⟨revision, isStep, known, rfl⟩), rfl⟩
  · intro line stored
    rcases (lines line).mp stored with old | ⟨revision, -, -, rfl⟩
    · exact recorded.undrifted line old
    · exact Ledger.isDrifted_lineOf revision

/-- So does a way down. -/
theorem Lowered.isRecorded (lowered : Lowered before steps last after)
    (descends : Descends before.position steps last) (orderly : after.IsOrderly)
    (recorded : before.IsRecorded) : after.IsRecorded := by
  cases last with
  | none =>
      -- Below the oldest revision there is no ledger.
      have absent : after.catalog.hasTable .ledger = false := lowered.isAt.catalog.hasTable _
      have empty : after.ledger.entries = [] := List.map_eq_nil_iff.mp (orderly.tidy _ absent)
      refine Database.isRecorded_of_listed (fun version => ?_) ?_
      · rw [lowered.isAt.position, empty]
        refine iff_of_false (by simp) ?_
        rintro ⟨revision, below, -⟩
        cases revision <;> cases below
      · rw [empty]
        exact nofun
  | some last =>
      have present : (Schema.Catalog.atPosition (some last)).hasTable .ledger = true := by
        cases last <;> rfl
      have lines := lowered.lines present
      refine Database.isRecorded_of_listed (fun version => ?_) ?_
      · rw [lowered.isAt.position]
        constructor
        · rintro ⟨line, stored, rfl⟩
          obtain ⟨old, spared⟩ := (lines line).mp stored
          obtain ⟨revision, below, same⟩ := (recorded.listed _).mp ⟨line, old, rfl⟩
          refine ⟨revision, (descends.number_le_iff revision).mpr ⟨below, fun isStep => ?_⟩, same⟩
          exact spared revision isStep same.symm
        · rintro ⟨revision, below, rfl⟩
          obtain ⟨lower, unreverted⟩ := (descends.number_le_iff revision).mp below
          obtain ⟨line, old, same⟩ := (recorded.listed _).mpr ⟨revision, lower, rfl⟩
          refine ⟨line, (lines line).mpr ⟨old, fun other isStep likewise => ?_⟩, same⟩
          have isOther := Revision.eq_of_number_eq (Int.ofNat.inj (same.symm.trans likewise))
          exact unreverted (isOther ▸ isStep)
      · exact fun line stored => recorded.undrifted line ((lines line).mp stored).1

/-- However a schema change goes on from a database with its revisions recorded, it leaves such a
database. -/
theorem ends_lead_isRecorded (settled : database.IsSettled) (recorded : database.IsRecorded)
    (direction : Direction) (target : String) (log : List LogLine) :
    (lead direction target).Ends context { saved := database, current := database, draws, log }
      (fun _ final => final.current.IsRecorded) (fun _ _ => True) := by
  refine ends_lead settled (fun catalog steps isAt orderly routed => ?_) (fun _ _ _ => trivial)
  have stillRecorded : (database.under catalog).IsRecorded :=
    ⟨recorded.versions, recorded.undrifted⟩
  cases direction with
  | upgrade =>
      obtain ⟨last, ascends⟩ := ascends_route routed
      exact (ends_takeAll_upgrade ascends orderly isAt (fun _ => rfl)).imp
        (fun _ _ advanced => advanced.isRecorded ascends stillRecorded) (fun _ _ _ => trivial)
  | downgrade =>
      obtain ⟨last, descends⟩ := descends_route routed
      refine ((ends_takeAll descends isAt (fun _ => rfl)).and
        (isLasting_isOrderly.ends_takeAll .downgrade steps orderly)).imp ?_ (fun _ _ _ => trivial)
      rintro _ final ⟨⟨-, lowered⟩, stillOrderly⟩
      exact lowered.isRecorded descends stillOrderly stillRecorded

end Migration

namespace Database

/-- The databases that requests and successful schema changes lead to, from an empty store or from
one without rows at a revision, as long as nobody edits the ledger. -/
inductive Maintained : Database → Prop where
  | empty : Maintained {}
  | founded (revision : Revision) (appliedOn : Stamp) : Maintained (.atRevision revision appliedOn)
  | served {before : Database} (maintained : Maintained before) (turn : Turn) :
      Maintained (turn.outcome before).database
  | moved {before after : Database} {direction : Direction} (maintained : Maintained before)
      (moved : Migration.Moved before direction after) : Maintained after

namespace Maintained

theorem reached (maintained : database.Maintained) : database.Reached := by
  induction maintained with
  | empty => exact .empty
  | founded revision appliedOn => exact .founded revision appliedOn
  | served _ turn reached => exact reached.served turn
  | moved _ moved reached => exact reached.moved moved

/-- Runs of requests maintain a database. -/
theorem after (maintained : database.Maintained) (turns : List Turn) :
    (database.after turns).Maintained :=
  after_of_kept (fun turn _ maintained => maintained.served turn) maintained turns

/-- The ledger of a database that nobody has edited lists the revisions up to its position. -/
theorem isRecorded (maintained : database.Maintained) : database.IsRecorded := by
  induction maintained with
  | empty => exact isRecorded_fresh ⟨⟨0⟩, true⟩ none
  | founded revision appliedOn => exact isRecorded_fresh appliedOn (some revision)
  | @served before maintained turn recorded =>
      have ledger := turn.ledger_outcome before
      have position := (turn.schema_outcome before).2
      exact ⟨by rw [ledger, position, recorded.versions], by rw [ledger]; exact recorded.undrifted⟩
  | moved maintained moved recorded =>
      exact moved.of_lead fun _ _ log target =>
        Migration.ends_lead_isRecorded maintained.reached.isSettled recorded _ target log

end Maintained

end Database

end Lookout
