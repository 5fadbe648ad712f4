import Lookout.Migration
import Lookout.Proofs.Runs

/-!
# Drift

A line of the ledger has drifted where its version is that of a revision and its checksum is
another one. A comparison of the ledger with the revisions stops at the first such line and
otherwise changes nothing. To record a revision leaves a ledger as it is that lists the version.
-/

namespace Lookout

open Operation Store
open Schema (Revision)
open Time (Stamp)

/-- What is in a table after a row has been put there. -/
theorem Store.Table.mem_put {α : Type} {table : Table α} {id : Int} {row : α} {entry : Entry α} :
    entry ∈ (table.put id row).entries ↔
      entry = ⟨id, row⟩ ∨ entry ∈ table.entries ∧ entry.id ≠ id := by
  simp only [Table.put, List.mem_append, List.mem_cons, List.mem_filter, decide_eq_true_eq]
  constructor
  · rintro (⟨stored, below⟩ | same | ⟨stored, above⟩)
    · exact .inr ⟨stored, Int.ne_of_lt below⟩
    · exact .inl same
    · exact .inr ⟨stored, (Int.ne_of_lt above).symm⟩
  · rintro (same | ⟨stored, other⟩)
    · exact .inr (.inl same)
    · rcases Int.lt_or_gt_of_ne other with below | above
      · exact .inl ⟨stored, below⟩
      · exact .inr (.inr ⟨stored, above⟩)

namespace Schema.Revision

/-- A revision is recorded under its number with its checksum. -/
theorem checksumOf?_number (revision : Revision) :
    checksumOf? revision.number = some revision.checksum := by
  cases revision <;> rfl

theorem eq_of_number_eq {revision other : Revision} (same : revision.number = other.number) :
    revision = other := by
  cases revision <;> cases other <;> first | rfl | cases same

end Schema.Revision

namespace Ledger

variable {context : Context} {session : Session} {ledger : Table LedgerLine} {appliedOn : Stamp}

/-- Whether a line records a revision with another checksum than that of the revision. -/
def isDrifted (line : Entry LedgerLine) : Bool :=
  (Revision.checksumOf? line.id).any fun checksum => line.row.checksum ≠ some checksum

/-- The failure that a line is when it has drifted. -/
def drift (line : Entry LedgerLine) : Failure :=
  .drift line.id line.row.checksum (Revision.checksumOf? line.id)

/-- The line that records a revision. -/
def lineOf (appliedOn : Stamp) (revision : Revision) : Entry LedgerLine :=
  ⟨revision.number, { name := some revision.label, appliedOn, checksum := some revision.checksum }⟩

/-- A ledger after a revision has been recorded, unless its version was. -/
def noted (appliedOn : Stamp) (ledger : Table LedgerLine) (revision : Revision) :
    Table LedgerLine :=
  if ledger.has revision.number then ledger
  else ledger.put revision.number (lineOf appliedOn revision).row

/-- Whether a line has another checksum than is expected of its version. -/
def strays (expected : Int → Option (Option String)) (line : Entry LedgerLine) : Bool :=
  (expected line.id).any fun checksum => line.row.checksum ≠ checksum

/-- The recorded versions are compared up to the first one that strays. -/
theorem ends_verifyLines (expected : Int → Option (Option String))
    (lines : List (Entry LedgerLine)) :
    (verifyLines expected lines).Ends context session
      (fun _ final => lines.find? (strays expected) = none ∧ ∃ log, final = { session with log })
      (fun failure final =>
        (∃ line, lines.find? (strays expected) = some line ∧
          failure = .drift line.id line.row.checksum (expected line.id).join) ∧
        ∃ log, final = { session with log }) := by
  induction lines generalizing session with
  | nil => exact ⟨rfl, session.log, rfl⟩
  | cons line rest ih =>
      simp only [verifyLines, verifyLine, ends_bind]
      cases known : expected line.id with
      | none =>
          have passes : strays expected line = false := by simp [strays, known]
          simp only [ends_log, List.find?_cons, passes]
          exact ih
      | some checksum =>
          simp only [ends_bind, ends_log, ends_ite, ends_throw, ends_pure]
          by_cases same : line.row.checksum = checksum
          · have passes : strays expected line = false := by simp [strays, known, same]
            simp only [same, decide_true, Bool.not_true, Bool.false_eq_true, false_implies,
              not_false_eq_true, true_implies, true_and, List.find?_cons, passes]
            exact ih
          · have strayed : strays expected line = true := by simp [strays, known, same]
            simp only [same, decide_false, Bool.not_false, true_implies, not_true_eq_false,
              false_implies, and_true, List.find?_cons, strayed, Option.some.injEq,
              exists_eq_left', known]
            exact ⟨rfl, _, rfl⟩

/-- A comparison of the ledger names the lowest version that strays. -/
theorem ends_verifyAgainst (expected : Int → Option (Option String)) :
    (verify expected).Ends context session
      (fun _ final =>
        session.current.ledger.find? (strays expected) = none ∧
          ∃ log, final = { session with log })
      (fun failure final =>
        (∃ line, session.current.ledger.find? (strays expected) = some line ∧
          failure = .drift line.id line.row.checksum (expected line.id).join) ∧
        ∃ log, final = { session with log }) :=
  ends_verifyLines expected session.current.ledger.entries

/-- The check for drift names the lowest version that has drifted. -/
theorem ends_verify :
    (verify Migration.expected).Ends context session
      (fun _ final =>
        session.current.ledger.find? isDrifted = none ∧ ∃ log, final = { session with log })
      (fun failure final =>
        (∃ line, session.current.ledger.find? isDrifted = some line ∧ failure = drift line) ∧
          ∃ log, final = { session with log }) := by
  have drifts : strays Migration.expected = isDrifted := by
    funext line
    simp only [strays, isDrifted, Migration.expected, Option.any_map]
  have told (line : Entry LedgerLine) :
      .drift line.id line.row.checksum (Migration.expected line.id).join = drift line := by
    rw [drift, Migration.expected]
    cases Revision.checksumOf? line.id <;> rfl
  have ends : (verify Migration.expected).Ends context session _ _ :=
    ends_verifyAgainst Migration.expected
  simpa only [drifts, told] using ends

/-- To record a revision fails only where its version is recorded and has drifted. -/
theorem ends_apply {revision : Revision}
    (present : session.current.catalog.hasTable .ledger = true) (isOpen : session.isOpen = true) :
    (apply (some revision.number) (some revision.label) (some revision.checksum)).Ends
      context session
      (fun _ final => final.isOpen = true ∧ final.saved = session.saved ∧
        final.current = { session.current with
          ledger := noted (Stamp.ofClock context.clock) session.current.ledger revision })
      (fun _ _ => ∃ line ∈ session.current.ledger.entries, isDrifted line = true) := by
  have complete : session.current.missing? [.ledger] = none := by
    simp [Database.missing?, present]
  have storable : isStorable revision.number = true := by
    cases revision <;> decide
  simp only [apply, ends_bind, ends_require, complete, ends_fits, storable, ends_rows,
    List.all_cons, Option.all_some, List.all_nil, Bool.and_self, Bool.true_eq_false, false_implies,
    reduceCtorEq, implies_true, true_and, List.mem_cons, List.not_mem_nil, or_false, forall_eq,
    Option.bind_some, true_implies]
  cases found : (Relation.read session.current : Table LedgerLine).get? revision.number with
  | none =>
      have unrecorded : session.current.ledger.has revision.number = false := by
        rw [← Bool.not_eq_true, Table.has_iff]
        rintro ⟨line, stored, same⟩
        exact absurd (decide_eq_true same) (List.find?_eq_none.mp found line stored)
      simp only [ends_bind, ends_stamp, ends_put, ends_log, ends_pure, noted, unrecorded]
      exact ⟨trivial, trivial, rfl⟩
  | some line =>
      have stored : line ∈ session.current.ledger.entries := List.mem_of_find?_eq_some found
      have same : line.id = revision.number := by simpa using List.find?_some found
      have recorded : session.current.ledger.has revision.number = true :=
        Table.has_iff.mpr ⟨line, stored, same⟩
      simp only [ends_ite, ends_bind, ends_log, ends_pure, ends_throw, noted, recorded, if_true]
      refine ⟨fun _ => ⟨isOpen, trivial, trivial⟩, fun other => ⟨line, stored, ?_⟩⟩
      simp [isDrifted, same, Revision.checksumOf?_number, other]

theorem mem_noted {revision : Revision} {line : Entry LedgerLine} :
    line ∈ (noted appliedOn ledger revision).entries ↔
      line ∈ ledger.entries ∨
        ledger.has revision.number = false ∧ line = lineOf appliedOn revision := by
  unfold noted
  cases recorded : ledger.has revision.number with
  | true => simp
  | false =>
      have unlike (stored : line ∈ ledger.entries) : line.id ≠ revision.number := fun same => by
        rw [Table.has_iff.mpr ⟨line, stored, same⟩] at recorded
        cases recorded
      rw [if_neg Bool.false_ne_true, Table.mem_put]
      constructor
      · rintro (new | ⟨old, _⟩)
        · exact .inr ⟨rfl, new⟩
        · exact .inl old
      · rintro (old | ⟨_, new⟩)
        · exact .inr ⟨old, unlike old⟩
        · exact .inl new

/-- After a revision has been recorded its version is listed, and otherwise what was. -/
theorem has_noted {revision other : Revision} :
    (noted appliedOn ledger revision).has other.number = true ↔
      ledger.has other.number = true ∨ other = revision := by
  simp only [Table.has_iff, mem_noted]
  constructor
  · rintro ⟨line, stored | ⟨_, rfl⟩, same⟩
    · exact .inl ⟨line, stored, same⟩
    · exact .inr (Revision.eq_of_number_eq (Int.ofNat.inj same)).symm
  · rintro (⟨line, stored, same⟩ | rfl)
    · exact ⟨line, .inl stored, same⟩
    · cases recorded : ledger.has other.number with
      | true =>
          obtain ⟨line, stored, same⟩ := Table.has_iff.mp recorded
          exact ⟨line, .inl stored, same⟩
      | false => exact ⟨_, .inr ⟨rfl, rfl⟩, rfl⟩

/-- Recording revisions one after the other adds a line for each one that was not recorded. -/
theorem mem_foldl_noted {revisions : List Revision} {line : Entry LedgerLine} :
    line ∈ (revisions.foldl (noted appliedOn) ledger).entries ↔
      line ∈ ledger.entries ∨ ∃ revision ∈ revisions,
        ledger.has revision.number = false ∧ line = lineOf appliedOn revision := by
  induction revisions generalizing ledger with
  | nil => simp
  | cons first rest ih =>
      simp only [List.foldl_cons, ih, mem_noted, ← Bool.not_eq_true, has_noted, not_or,
        List.mem_cons, or_and_right, exists_or, exists_eq_left]
      constructor
      · rintro ((old | new) | ⟨revision, later, ⟨unrecorded, _⟩, isLine⟩)
        · exact .inl old
        · exact .inr (.inl new)
        · exact .inr (.inr ⟨revision, later, unrecorded, isLine⟩)
      · rintro (old | new | ⟨revision, later, unrecorded, isLine⟩)
        · exact .inl (.inl old)
        · exact .inl (.inr new)
        · by_cases isFirst : revision = first
          · exact .inl (.inr ⟨isFirst ▸ unrecorded, isFirst ▸ isLine⟩)
          · exact .inr ⟨revision, later, ⟨unrecorded, isFirst⟩, isLine⟩

/-- A line that records a revision has not drifted. -/
theorem isDrifted_lineOf (revision : Revision) : isDrifted (lineOf appliedOn revision) = false := by
  simp [isDrifted, lineOf, Revision.checksumOf?_number]

end Ledger

end Lookout
