import Lookout.Journal.Sink
import Lookout.Proofs.Newest

/-!
# What becomes of records

A sink is given records and flushed, in any order, and each time its store may be out of reach.
The records that it accepts are then, in their order, those of the batches that it has tried to
write and after them those that it keeps back. The lines of the batches that were written are in
the journal, and of the others nothing is. Where the store is within reach a batch is written
unless one of its records has no line.
-/

namespace Lookout.Journal

open Operation Store

/-- The line that a record is stored as. -/
def Record.line? (record : Record) : Option JournalLine :=
  record.draft?.bind Draft.line?

/-- The lines of the journal, in the order of their numbers. -/
def lines (database : Database) : List JournalLine :=
  database.journal.entries.map (·.row)

section Writing

variable {context : Context} {batch : List Record} {before after : Database}

/-- The records of a batch have their drafts one by one. -/
theorem map_draft?_of_mapM {drafts : List Draft}
    (drafted : batch.mapM Record.draft? = some drafts) :
    batch.map Record.draft? = drafts.map some := by
  induction batch generalizing drafts with
  | nil => cases drafted; rfl
  | cons record rest ih =>
      simp only [List.mapM_cons, Option.bind_eq_bind, Option.bind_eq_some_iff, Option.pure_def,
        Option.some.injEq] at drafted
      obtain ⟨draft, isDraft, others, areOthers, rfl⟩ := drafted
      rw [List.map_cons, List.map_cons, isDraft, ih areOthers]

/-- A batch that is written adds the lines of its records to the journal, in their order. -/
theorem lines_writeBatch (written : writeBatch context batch before = some after) :
    (lines after).map some = (lines before).map some ++ batch.map Record.line? := by
  simp only [writeBatch, Option.bind_eq_bind, Option.bind_eq_some_iff] at written
  obtain ⟨drafts, drafted, written⟩ := written
  cases answered : ((appendAll (some drafts)).perform context before {}).answer with
  | error failure =>
      rw [answered] at written
      cases written
  | ok count =>
      rw [answered] at written
      cases written
      obtain ⟨_, rows, ⟨⟩, areRows, -, -, adds⟩ := (appendAll_achieves _).of_answer answered
      obtain ⟨new, rfl, same⟩ := adds.entries
      change (Database.journal _).entries = before.journal.entries ++ new at same
      have ofBatch : batch.map Record.line? = (new.map (·.row)).map some := by
        calc batch.map Record.line?
            = (batch.map Record.draft?).map (·.bind Draft.line?) := by rw [List.map_map]; rfl
          _ = drafts.map Draft.line? := by rw [map_draft?_of_mapM drafted, List.map_map]; rfl
          _ = (new.map (·.row)).map some := areRows
      rw [lines, lines, same, ofBatch, List.map_append, List.map_append]

/-- What a record is drafted as has what a line needs. -/
theorem Record.exists_line {record : Record} {draft : Draft}
    (drafted : record.draft? = some draft) : ∃ line, draft.line? = some line := by
  simp only [draft?, Option.bind_eq_bind, Option.bind_eq_some_iff, Option.pure_def,
    Option.some.injEq] at drafted
  obtain ⟨wall, -, message, -, rfl⟩ := drafted
  exact ⟨_, rfl⟩

/-- Where no lines have to be unlike, nothing is in the way of a line: it names no row. -/
theorem admitted_line (keyless : before.catalog.uniqueKeys .journal = []) (line : JournalLine) :
    before.refusal? line = none := by
  refine Database.admitted_of_unlike_and_rooted (fun columns unique => ?_) fun _ isKey => ?_
  · rw [show Relation.table JournalLine = .journal from rfl, keyless] at unique
    cases unique
  · cases isKey

/-- Drafts that have what lines need are all added. -/
theorem ends_insertAll {session : Session}
    (keyless : session.current.catalog.uniqueKeys .journal = []) {drafts : List Draft}
    (complete : ∀ draft ∈ drafts, ∃ line, draft.line? = some line) :
    (insertAll drafts).Ends context session (fun _ _ => True) (fun _ _ => False) := by
  induction drafts generalizing session with
  | nil => trivial
  | cons draft rest ih =>
      obtain ⟨line, isLine⟩ := complete draft List.mem_cons_self
      simp only [Draft.line?, Option.bind_eq_bind, Option.bind_eq_some_iff, Option.pure_def,
        Option.some.injEq] at isLine
      obtain ⟨time, hasTime, message, hasMessage, rfl⟩ := isLine
      simp only [insertAll, insert, ends_bind, ends_needed, hasTime, hasMessage, ends_add,
        reduceCtorEq, false_implies, true_and, Option.some.injEq, forall_eq',
        admitted_line keyless, implies_true, forall_const]
      exact ih keyless fun other later => complete other (.tail _ later)

/-- A batch is drafted exactly if each of its records is. -/
theorem isSome_mapM_draft? :
    (batch.mapM Record.draft?).isSome = true ↔ ∀ record ∈ batch, record.draft?.isSome = true := by
  induction batch with
  | nil => simp
  | cons record rest ih =>
      rw [List.forall_mem_cons, ← ih, List.mapM_cons]
      cases record.draft? <;> cases rest.mapM Record.draft? <;> simp

/-- In a database of the newest revision a batch is written exactly if its records are
well-formed. -/
theorem isSome_writeBatch (newest : before.IsNewest) :
    (writeBatch context batch before).isSome = true ↔
      ∀ record ∈ batch, record.draft?.isSome = true := by
  rw [← isSome_mapM_draft?, writeBatch]
  cases drafted : batch.mapM Record.draft? with
  | none => simp
  | some drafts =>
      have keyless : before.catalog.uniqueKeys .journal = [] := by
        refine List.eq_nil_iff_forall_not_mem.mpr fun columns unique => ?_
        have none : Schema.Revision.invites.catalog.uniqueKeys .journal = [] := by decide
        have known : columns ∈ Schema.Revision.invites.catalog.uniqueKeys .journal :=
          newest.alike.mem_uniqueKeys.mp unique
        rw [none] at known
        cases known
      have complete : ∀ draft ∈ drafts, ∃ line, draft.line? = some line := by
        intro draft isDraft
        have listed := List.mem_map_of_mem isDraft (f := some)
        rw [← map_draft?_of_mapM drafted] at listed
        obtain ⟨record, -, isOf⟩ := List.mem_map.mp listed
        exact record.exists_line isOf
      have ends : (appendAll (some drafts)).Ends context
          { saved := before, current := before, draws := {} } (fun _ _ => True)
          (fun _ _ => False) := by
        cases drafts with
        | nil => trivial
        | cons first rest =>
            simp only [appendAll, ends_bind, ends_require, newest.missing?_eq_none, ends_commit,
              ends_pure, reduceCtorEq, false_implies, implies_true, true_and, forall_const]
            exact ends_insertAll keyless complete
      rcases ends.outcome with ⟨count, final, -, answered, -⟩ | ⟨_, _, never, -⟩
      · simp [answered]
      · exact never.elim

/-- The database after a batch was to be written, however that ended. -/
def afterWrite (context : Context) (batch : List Record) (database : Database) : Database :=
  match batch.mapM Record.draft? with
  | some drafts => ((appendAll (some drafts)).perform context database {}).database
  | none => database

/-- A write that fails leaves the database as it was. -/
theorem afterWrite_eq (context : Context) (batch : List Record) (database : Database) :
    afterWrite context batch database = (writeBatch context batch database).getD database := by
  unfold afterWrite writeBatch
  cases batch.mapM Record.draft? with
  | none => rfl
  | some drafts =>
      cases answered : ((appendAll (some drafts)).perform context database {}).answer with
      | ok count => simp [answered]
      | error failure => simpa [answered] using (appendAll_achieves _).of_failure answered

end Writing

namespace Sink

/-- Nothing is left in a sink that has been flushed. -/
theorem buffer_flush (write : List Record → Database → Option Database) (sink : Sink)
    (database : Database) : (sink.flush write database).1.buffer = [] := by
  unfold flush
  split
  · rename_i isEmpty
    exact List.isEmpty_iff.mp isEmpty
  · split <;> rfl

/-- What is done to a sink. To close it is to flush it. -/
inductive Action where
  | emit (record : Record)
  | flush

/-- An action on a sink, with what surrounds it and whether the store is within reach. -/
structure Step where
  action : Action
  context : Context
  isReachable : Bool := true

/-- A batch that a sink has tried to write, and whether it was written. -/
structure Attempt where
  batch : List Record
  isWritten : Bool

namespace Step

/-- The record that a step brings, if the sink accepts it. -/
def accepted (step : Step) : List Record :=
  match step.action with
  | .emit record => if record.isAccepted then [record] else []
  | .flush => []

/-- Write a batch, for which the store has to be within reach. -/
def write (step : Step) (batch : List Record) (database : Database) : Option Database :=
  if step.isReachable then writeBatch step.context batch database else none

/-- Do what a step says. -/
def apply (step : Step) (sink : Sink) (database : Database) : Sink × Database :=
  match step.action with
  | .emit record => sink.emit step.write record database
  | .flush => sink.flush step.write database

/-- A batch that a step writes adds the lines of its records to the journal, in their order. -/
theorem lines_write {step : Step} {batch : List Record} {before after : Database}
    (written : step.write batch before = some after) :
    (lines after).map some = (lines before).map some ++ batch.map Record.line? := by
  unfold write at written
  split at written
  · exact lines_writeBatch written
  · cases written

/-- A step writes a batch exactly if the store is within reach and the records are well-formed. -/
theorem isSome_write {step : Step} {batch : List Record} {before : Database}
    (newest : before.IsNewest) :
    (step.write batch before).isSome = true ↔
      step.isReachable = true ∧ ∀ record ∈ batch, record.draft?.isSome = true := by
  unfold write
  cases step.isReachable <;> simp [isSome_writeBatch newest]

/-- What a step tries to write. A sink that is empty afterwards has tried to write what it had
kept back and what it was brought. -/
def attempts (step : Step) (sink : Sink) (database : Database) : List Attempt :=
  let batch := sink.buffer ++ step.accepted
  if (step.apply sink database).1.buffer.isEmpty && !batch.isEmpty then
    [⟨batch, (step.write batch database).isSome⟩]
  else []

variable {step : Step} {sink : Sink} {database : Database}

/-- What a step can lead to: the sink keeps back what it has and what it is brought, or it
writes all that, or it drops all that. It keeps it back only while it is not full. -/
inductive Leads (step : Step) (sink : Sink) (database : Database) :
    Sink × Database → List Attempt → Prop where
  | keeps
      (fits : step.accepted = [] ∨
        ∀ capacity, sink.capacity = some capacity →
          ((sink.buffer ++ step.accepted).length : Int) < capacity) :
      Leads step sink database ({ sink with buffer := sink.buffer ++ step.accepted }, database) []
  | writes {after : Database}
      (written : step.write (sink.buffer ++ step.accepted) database = some after) :
      Leads step sink database ({ sink with buffer := [] }, after)
        [⟨sink.buffer ++ step.accepted, true⟩]
  | drops (failed : step.write (sink.buffer ++ step.accepted) database = none) :
      Leads step sink database ({ sink with buffer := [], failures := sink.failures + 1 }, database)
        [⟨sink.buffer ++ step.accepted, false⟩]

/-- A step that flushes the sink after it was brought something writes or drops it all. -/
theorem leads_of_flush (isFilled : sink.buffer ++ step.accepted ≠ [])
    (flushes : step.apply sink database =
      { sink with buffer := sink.buffer ++ step.accepted }.flush step.write database) :
    step.Leads sink database (step.apply sink database) (step.attempts sink database) := by
  cases result : step.write (sink.buffer ++ step.accepted) database with
  | some after => simpa [attempts, flushes, flush, isFilled, result] using Leads.writes result
  | none => simpa [attempts, flushes, flush, isFilled, result] using Leads.drops result

/-- A step that keeps all back tries to write nothing. -/
theorem leads_of_keep
    (fits : step.accepted = [] ∨
      ∀ capacity, sink.capacity = some capacity →
        ((sink.buffer ++ step.accepted).length : Int) < capacity)
    (keeps : step.apply sink database =
      ({ sink with buffer := sink.buffer ++ step.accepted }, database)) :
    step.Leads sink database (step.apply sink database) (step.attempts sink database) := by
  have nothing : step.attempts sink database = [] := by
    simp [attempts, keeps]
  rw [nothing, keeps]
  exact .keeps fits

/-- A step keeps back, writes or drops what there is. -/
theorem leads (step : Step) (sink : Sink) (database : Database) :
    step.Leads sink database (step.apply sink database) (step.attempts sink database) := by
  obtain ⟨action, context, isReachable⟩ := step
  cases action with
  | emit record =>
      cases accepts : record.isAccepted with
      | false =>
          refine leads_of_keep (.inl ?_) ?_
          · simp [accepted, accepts]
          · simp [apply, emit, accepted, accepts]
      | true =>
          by_cases full : sink.capacity.any fun capacity =>
              capacity ≤ ((sink.buffer ++ [record]).length : Int)
          · refine leads_of_flush ?_ ?_
            · simp [accepted, accepts]
            · simp only [apply, emit, accepted, accepts, if_true, full]
          · refine leads_of_keep (.inr fun capacity isCapacity => ?_) ?_
            · simpa [accepted, accepts, isCapacity] using full
            · simp only [apply, emit, accepted, accepts, if_true, full]
              rfl
  | flush =>
      obtain ⟨capacity, threshold, buffer, failures⟩ := sink
      cases buffer with
      | nil => exact leads_of_keep (.inl rfl) rfl
      | cons first rest =>
          refine leads_of_flush (List.cons_ne_nil _ _) ?_
          simp [apply, accepted]

end Step

/-- How far a sink and its database have come, and what has been tried to be written. -/
structure Run where
  sink : Sink
  database : Database
  attempts : List Attempt := []

namespace Run

/-- A run goes on by a step. -/
def next (run : Run) (step : Step) : Run where
  sink := (step.apply run.sink run.database).1
  database := (step.apply run.sink run.database).2
  attempts := run.attempts ++ step.attempts run.sink run.database

/-- A run goes on by steps. -/
def after (run : Run) (steps : List Step) : Run :=
  steps.foldl next run

/-- The records that a run has tried to write. -/
def tried (run : Run) : List Record :=
  run.attempts.flatMap Attempt.batch

/-- The records that a run has written. -/
def written (run : Run) : List Record :=
  (run.attempts.filter Attempt.isWritten).flatMap Attempt.batch

/-- How often a run has dropped a batch. -/
def dropped (run : Run) : Nat :=
  run.attempts.countP fun attempt => !attempt.isWritten

/-- A run from a sink with a capacity and a database accounts for the records that were
accepted. -/
structure Accounts (capacity : Int) (database : Database) (accepted : List Record) (run : Run) :
    Prop where
  isCapacity : run.sink.capacity = some capacity
  records : accepted = run.tried ++ run.sink.buffer
  lines : (lines run.database).map some =
    (lines database).map some ++ run.written.map Record.line?
  failures : run.sink.failures = run.dropped
  fits : (run.sink.buffer.length : Int) < max capacity 1

variable {capacity : Int} {database : Database} {records : List Record} {run : Run}

/-- A run that accounts for its records does so after another step. -/
theorem Accounts.next (accounts : run.Accounts capacity database records) (step : Step) :
    (run.next step).Accounts capacity database (records ++ step.accepted) := by
  obtain ⟨isCapacity, rfl, sameLines, sameFailures, fits⟩ := accounts
  have leads := step.leads run.sink run.database
  simp only [Run.next]
  generalize step.apply run.sink run.database = result at leads ⊢
  generalize step.attempts run.sink run.database = attempts at leads ⊢
  cases leads with
  | keeps small =>
      refine ⟨isCapacity, ?_, ?_, ?_, ?_⟩
      · simp [tried]
      · simpa [written] using sameLines
      · simpa [dropped] using sameFailures
      · rcases small with nothing | small
        · simpa [nothing] using fits
        · have below := small capacity isCapacity
          dsimp only
          omega
  | writes written =>
      refine ⟨isCapacity, ?_, ?_, ?_, ?_⟩
      · simp [tried]
      · rw [Step.lines_write written, sameLines]
        simp [Run.written, List.append_assoc]
      · simpa [dropped] using sameFailures
      · dsimp only [List.length_nil]
        omega
  | drops failed =>
      refine ⟨isCapacity, ?_, ?_, ?_, ?_⟩
      · simp [tried]
      · simpa [Run.written] using sameLines
      · simpa [dropped] using sameFailures
      · dsimp only [List.length_nil]
        omega

/-- A run that accounts for its records does so after more steps. -/
theorem Accounts.after (accounts : run.Accounts capacity database records) (steps : List Step) :
    (run.after steps).Accounts capacity database (records ++ steps.flatMap Step.accepted) := by
  induction steps generalizing run records with
  | nil => simpa [Run.after] using accounts
  | cons step rest ih => simpa [Run.after] using ih (accounts.next step)

end Run

/-- Whatever is done to a new sink, and whatever batches fail: the records that it has accepted
are, in their order and each once, those of the batches that it has tried to write and then those
that it keeps back. The journal has the lines of the batches that were written after those that it
had, each other batch counts as a failure, and a write that fails changes nothing. The sink keeps
back less than makes it full, and nothing once it has been closed. -/
theorem accounts_for_records (capacity threshold : Int) (steps : List Step) (database : Database) :
    let run := Run.after { sink := { capacity := some capacity, threshold }, database } steps
    steps.flatMap Step.accepted = run.tried ++ run.sink.buffer ∧
      (lines run.database).map some =
        (lines database).map some ++ run.written.map Record.line? ∧
      run.sink.failures = run.dropped ∧
      (run.sink.buffer.length : Int) < max capacity 1 ∧
      (∀ context batch,
        afterWrite context batch run.database =
          (writeBatch context batch run.database).getD run.database) ∧
      ∀ context isReachable, (run.next ⟨.flush, context, isReachable⟩).sink.buffer = [] := by
  intro run
  have start : Run.Accounts capacity database []
      { sink := { capacity := some capacity, threshold }, database } :=
    { isCapacity := rfl
      records := rfl
      lines := by simp [Run.written]
      failures := rfl
      fits := Int.lt_of_lt_of_le Int.zero_lt_one (Int.le_max_right capacity 1) }
  have accounts := start.after steps
  refine ⟨accounts.records, accounts.lines, accounts.failures, accounts.fits, ?_, ?_⟩
  · exact fun context batch => afterWrite_eq context batch run.database
  · exact fun context isReachable => buffer_flush _ _ _

/-- Two records are dropped because the store is out of reach, and the third one is stored when
the sink is closed. -/
example :
    let record (message : String) : Record :=
      { logger := "app", severity := 20, message := .text message, created := .integer 0 }
    let context : Context := { clock := ⟨0⟩ }
    let run := Run.after
      { sink := { capacity := some 2 }, database := Database.atRevision .invites ⟨⟨0⟩, true⟩ }
      [⟨.emit (record "one"), context, true⟩, ⟨.emit (record "two"), context, false⟩,
        ⟨.emit (record "three"), context, true⟩, ⟨.flush, context, true⟩]
    run.dropped = 1 ∧ (lines run.database).map (·.message) = ["three"] := by
  decide +kernel

end Sink

end Lookout.Journal
