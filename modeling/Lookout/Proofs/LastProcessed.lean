import Lookout.Proofs.Watermark

/-!
# The last post processed

What is read as the last post processed is the mark of the last advance that was answered with
true. A thread starts at the mark zero, and reading takes the post number zero for a thread in
which nothing has been processed, so the one exception is a mark with that number: a thread can
be told of it, and nothing is read then.
-/

namespace Lookout

open Operation Store

variable {context : Context} {database before after : Database} {id : Int}

/-- An update leaves the number of a row. -/
theorem Store.Table.get?_update {α : Type} (table : Table α) (wanted : Entry α → Bool)
    (step : α → α) (id : Int) :
    (table.update wanted step).get? id = (table.get? id).map fun entry =>
      if wanted entry then { entry with row := step entry.row } else entry := by
  have sameId (entry : Entry α) :
      (if wanted entry then { entry with row := step entry.row } else entry).id = entry.id := by
    split <;> rfl
  simp only [get?, entries_update, List.find?_map, Function.comp_def, sameId]

/-- The watermark of the thread under a number; a thread that is not there has none. -/
def Database.markOf (database : Database) (id : Int) : Int × Int :=
  ((database.threads.get? id).map fun entry => entry.row.watermark).getD (0, 0)

namespace Database

theorem markOf_eq_of_mem {held : Entry Thread} (stored : held ∈ database.threads.entries) :
    database.markOf held.id = held.row.watermark := by
  unfold markOf
  rw [Table.get?_of_mem stored]
  rfl

theorem markOf_eq_of_not_mem (absent : ∀ entry ∈ database.threads.entries, entry.id ≠ id) :
    database.markOf id = (0, 0) := by
  have nothing : database.threads.get? id = none :=
    List.find?_eq_none.mpr fun entry stored isHeld => absent entry stored (of_decide_eq_true isHeld)
  unfold markOf
  rw [nothing]
  rfl

end Database

namespace Thread

/-- Where threads keep their watermarks, the number of a new one gets the mark that it had before
there was a thread. -/
theorem KeepMarks.markOf (kept : KeepMarks before.threads after.threads) (id : Int) :
    after.markOf id = before.markOf id := by
  by_cases there : ∃ entry ∈ before.threads.entries, entry.id = id
  · obtain ⟨entry, stored, rfl⟩ := there
    obtain ⟨later, isLater, sameId, same⟩ := kept.kept entry stored
    rw [Database.markOf_eq_of_mem stored, ← sameId, Database.markOf_eq_of_mem isLater, watermark,
      same.1, same.2, watermark]
  · push Not at there
    rw [Database.markOf_eq_of_not_mem there]
    by_cases arrived : ∃ later ∈ after.threads.entries, later.id = id
    · obtain ⟨later, isLater, rfl⟩ := arrived
      rw [Database.markOf_eq_of_mem isLater]
      rcases kept.marked later isLater with starts | ⟨entry, stored, sameId, -⟩
      · rw [watermark, starts.1, starts.2]
        rfl
      · exact absurd sameId (there entry stored)
    · push Not at arrived
      exact Database.markOf_eq_of_not_mem arrived

/-- An advance moves the thread that it names where that is behind, and no other. -/
theorem markOf_updated (database : Database) (named : Option Int) (mark : Int × Int) (id : Int) :
    (database.updated (isBehindAt named mark) fun row => row.withWatermark mark).markOf id =
      if named = some id ∧ 0 < database.threads.count (isBehindAt named mark) then mark
      else database.markOf id := by
  have same : (database.updated (isBehindAt named mark)
      fun row => row.withWatermark mark).threads.get? id =
        (database.threads.get? id).map fun entry =>
          if isBehindAt named mark entry then { entry with row := entry.row.withWatermark mark }
          else entry :=
    Table.get?_update _ _ _ id
  unfold Database.markOf
  rw [same]
  cases found : database.threads.get? id with
  | none =>
      -- A thread that is moved is there under its number.
      have unmoved : ¬(named = some id ∧ 0 < database.threads.count (isBehindAt named mark)) := by
        rintro ⟨rfl, moved⟩
        obtain ⟨entry, stored, isBehind⟩ := Table.exists_of_count moved.ne'
        have isHeld := of_decide_eq_true (Bool.and_eq_true_iff.mp isBehind).1
        exact List.find?_eq_none.mp found entry stored (decide_eq_true (Option.some.inj isHeld))
      rw [if_neg unmoved]
      rfl
  | some held =>
      have stored : held ∈ database.threads.entries := List.mem_of_find?_eq_some found
      have isHeld : held.id = id := by simpa using List.find?_some found
      have moves : isBehindAt named mark held = true ↔
          named = some id ∧ 0 < database.threads.count (isBehindAt named mark) := by
        constructor
        · intro isBehind
          have isNamed := of_decide_eq_true (Bool.and_eq_true_iff.mp isBehind).1
          exact ⟨isHeld ▸ isNamed.symm, List.countP_pos_iff.mpr ⟨held, stored, isBehind⟩⟩
        · rintro ⟨rfl, moved⟩
          obtain ⟨entry, isStored, isBehind⟩ := Table.exists_of_count moved.ne'
          have sameId := Option.some.inj (of_decide_eq_true (Bool.and_eq_true_iff.mp isBehind).1)
          rwa [database.threads.eq_of_id_eq isStored stored (sameId.trans isHeld.symm)] at isBehind
      by_cases isBehind : isBehindAt named mark held = true
      · simp only [Option.map_some, Option.getD_some, if_pos isBehind, if_pos (moves.mp isBehind)]
        rfl
      · simp only [Option.map_some, Option.getD_some, if_neg isBehind,
          if_neg (mt moves.mpr isBehind)]

/-- What is read is the watermark, unless its post number is zero. -/
theorem answer_lastProcessed (present : database.missing? [.threads] = none)
    (numbered : isStorable id = true) (context : Context) (draws : Draws) :
    ((lastProcessed (some id)).perform context database draws).answer =
      .ok (if (database.markOf id).1 = 0 then none else some (database.markOf id)) := by
  refine Ends.answer_perform _ ?_
  have same : (Relation.read database : Table Thread).find? (fun entry => some entry.id = some id) =
      database.threads.get? id := by
    simp only [Option.some.injEq]
    rfl
  simp only [lastProcessed, lookup, ends_bind, ends_require, present, ends_fits, ends_rows,
    ends_pure, reduceCtorEq, false_implies, implies_true, true_and, true_implies, List.all_cons,
    List.all_nil, Option.all_some, numbered, Bool.and_self, Bool.true_eq_false, same]
  intro _
  unfold Database.markOf
  cases database.threads.get? id <;> rfl

end Thread

namespace Event

/-- The mark that an event has moved a thread to: that of an advance that was answered with
true. -/
def moved? (id : Int) : Event → Option (Int × Int)
  | ⟨⟨.advanceWatermark named (some number) (some subNumber), context, draws⟩, before⟩ =>
      if named = some id ∧ ((Thread.advance named (some number) (some subNumber)).perform context
          before draws).answer.toOption = some true then
        some (number, subNumber)
      else none
  | _ => none

/-- After an event a thread has the mark that it was moved to, or the one that it had. -/
theorem markOf_after (event : Event) (id : Int) :
    event.after.markOf id = (event.moved? id).getD (event.before.markOf id) := by
  obtain ⟨⟨request, context, draws⟩, before⟩ := event
  by_cases other : ∀ named postNo postSubNo, request ≠ .advanceWatermark named postNo postSubNo
  · have silent : moved? id ⟨⟨request, context, draws⟩, before⟩ = none := by
      cases request with
      | advanceWatermark named postNo postSubNo => exact absurd rfl (other named postNo postSubNo)
      | _ => rfl
    rw [silent]
    exact (Turn.keepMarks ⟨request, context, draws⟩ other before).markOf id
  · push Not at other
    obtain ⟨named, postNo, postSubNo, rfl⟩ := other
    rcases Turn.ends ⟨.advanceWatermark named postNo postSubNo, context, draws⟩ trivial before with
      ⟨hasMoved, answered, number, subNumber, rfl, rfl, -, isMoved, same⟩ | ⟨failure, failed, same⟩
    · have told : ((Thread.advance named (some number) (some subNumber)).perform context before
          draws).answer = .ok hasMoved := answered
      simp only [after, outcome, same, Thread.markOf_updated, moved?, told, isMoved,
        Except.toOption, Option.some.injEq, decide_eq_true_eq]
      split <;> rfl
    · have silent : moved? id ⟨⟨.advanceWatermark named postNo postSubNo, context, draws⟩, before⟩ =
          none := by
        have told : ((Thread.advance named postNo postSubNo).perform context before draws).answer =
          .error failure := failed
        unfold moved?
        split
        · rename_i isEvent
          cases isEvent
          rw [told]
          exact if_neg nofun
        · rfl
      rw [silent]
      exact congrArg (Database.markOf · id) same

end Event

/-- After a run a thread has the last mark that it was moved to, or the one that it had. -/
theorem Database.markOf_after (database : Database) (turns : List Turn) (id : Int) :
    (database.after turns).markOf id =
      ((database.history turns).filterMap (Event.moved? id)).getLast?.getD
        (database.markOf id) := by
  induction turns generalizing database with
  | nil => rfl
  | cons turn rest ih =>
      have first := Event.markOf_after ⟨turn, database⟩ id
      have others := ih (turn.outcome database).database
      rw [after, others, history, List.filterMap_cons]
      cases moved : Event.moved? id ⟨turn, database⟩ with
      | none =>
          rw [moved] at first
          exact congrArg _ first
      | some mark =>
          rw [moved] at first
          rw [List.getLast?_cons, Option.getD_some]
          exact congrArg _ first

namespace Thread

/-- What an advance has reported moving a thread to is read right after it. -/
theorem answer_lastProcessed_of_reported {mark : Int × Int} {draws : Draws}
    (reported : ((advance (some id) (some mark.1) (some mark.2)).perform context database
      draws).answer = .ok true) (reader : Context) (supply : Draws) :
    ((lastProcessed (some id)).perform reader
        ((advance (some id) (some mark.1) (some mark.2)).perform context database draws).database
        supply).answer =
      .ok (if mark.1 = 0 then none else some mark) := by
  let turn : Turn := ⟨.advanceWatermark (some id) (some mark.1) (some mark.2), context, draws⟩
  have moved : Event.moved? id ⟨turn, database⟩ = some mark := by
    simp only [turn, Event.moved?, reported, Except.toOption, and_self, if_true]
  have marked := Event.markOf_after ⟨turn, database⟩ id
  rw [moved, Option.getD_some] at marked
  -- Only a number that the store can keep is answered, in a table that exists.
  have given : database.missing? [.threads] = none ∧ isStorable id = true := by
    have ends : (advance (some id) (some mark.1) (some mark.2)).Ends context
        { saved := database, current := database, draws }
        (fun _ _ => database.missing? [.threads] = none ∧ isStorable id = true)
        (fun _ _ => True) := by
      simp only [advance, ends_bind, ends_require, ends_fits]
      refine ⟨fun _ _ => trivial, fun complete => ⟨fun _ => trivial, fun storable => ?_⟩⟩
      have numbered : isStorable id = true := storable (some id) (.head _)
      simp only [ends_updateWhere, ends_bind, ends_commit, ends_ite, ends_log, ends_pure]
      refine ⟨fun _ => ⟨complete, numbered⟩, fun _ => ?_⟩
      exact (demand_prepares (some id) _).imp (fun _ _ _ => ⟨complete, numbered⟩)
        fun _ _ _ => trivial
    obtain ⟨_, known, -⟩ := ends.of_answer reported
    exact known
  obtain ⟨catalog, -⟩ := turn.schema_outcome database
  have present : (turn.outcome database).database.missing? [.threads] = none := by
    rw [Database.missing?, catalog]
    exact given.1
  have read := answer_lastProcessed present given.2 reader supply
  have same : (turn.outcome database).database.markOf id = mark := marked
  rwa [same] at read

/-- Right after an advance that is answered with true its mark is read, unless the post number of
the mark is zero: then nothing is read. In every run that starts without rows the last mark that
an advance has reported is read, with the same exception. So nothing is read exactly where nothing
has been reported yet, unless the last mark that was has the post number zero. -/
theorem reads_reported_iff (reader : Context) (supply : Draws) :
    (∀ (database : Database) (id : Int) (mark : Int × Int) (context : Context) (draws : Draws),
      let outcome := (advance (some id) (some mark.1) (some mark.2)).perform context database draws
      let read := (lastProcessed (some id)).perform reader outcome.database supply
      outcome.answer = .ok true →
        (read.answer = .ok (some mark) ↔ mark.1 ≠ 0) ∧ (read.answer = .ok none ↔ mark.1 = 0)) ∧
    ∀ (revision : Schema.Revision) (appliedOn : Time.Stamp) (turns : List Turn) (id : Int),
      isStorable id = true →
        let database := Database.atRevision revision appliedOn
        let reported := (database.history turns).filterMap (Event.moved? id)
        let read := (lastProcessed (some id)).perform reader (database.after turns) supply
        read.answer = .ok (reported.getLast?.filter fun last => last.1 ≠ 0) ∧
          ((read.answer = .ok none ↔ reported = []) ↔ ∀ last ∈ reported.getLast?, last.1 ≠ 0) := by
  constructor
  · intro database id mark context draws outcome read answered
    have told : read.answer = .ok (if mark.1 = 0 then none else some mark) :=
      answer_lastProcessed_of_reported answered reader supply
    rw [told]
    by_cases isZero : mark.1 = 0 <;> simp [isZero]
  · intro revision appliedOn turns id numbered database reported read
    have isAt := (Database.isAt_atRevision revision appliedOn).after turns
    have present : (database.after turns).missing? [.threads] = none := by
      have hasThreads : (database.after turns).catalog.hasTable .threads = true := by
        rw [isAt.catalog.hasTable]
        cases revision <;> decide
      simp [Database.missing?, hasThreads]
    have marked : (database.after turns).markOf id = reported.getLast?.getD (0, 0) :=
      database.markOf_after turns id
    have told : read.answer = .ok (reported.getLast?.filter fun last => last.1 ≠ 0) := by
      refine (answer_lastProcessed present numbered reader supply).trans (congrArg Except.ok ?_)
      rw [marked]
      cases reported.getLast? with
      | none => rfl
      | some last => by_cases isZero : last.1 = 0 <;> simp [Option.filter, isZero]
    refine ⟨told, ?_⟩
    rw [told, ← List.getLast?_eq_none_iff]
    cases reported.getLast? with
    | none => simp
    | some last => by_cases isZero : last.1 = 0 <;> simp [Option.filter, isZero]

/-- A thread is made. -/
def threading : List Turn :=
  [{ request := .resolveThread (some "s") (some "b") (some 1), context := { clock := ⟨0⟩ } }]

/-- A thread that is told of three marks shows the greatest one at once and in the end. -/
theorem reads_reported_greatest :
    let context : Context := { clock := ⟨0⟩ }
    let told (mark : Int × Int) : Turn :=
      { request := .advanceWatermark (some 1) (some mark.1) (some mark.2), context }
    let database := Database.atRevision .invites ⟨⟨0⟩, true⟩
    let middle := database.after (threading ++ [told (0, 7)])
    let outcome := (advance (some 1) (some 5) (some 2)).perform context middle {}
    let turns := threading ++ [told (0, 7), told (5, 2), told (3, 9)]
    outcome.answer = .ok true ∧
      ((lastProcessed (some 1)).perform context outcome.database {}).answer = .ok (some (5, 2)) ∧
      isStorable 1 = true ∧
      (database.history turns).filterMap (Event.moved? 1) = [(0, 7), (5, 2)] ∧
      ((lastProcessed (some 1)).perform context (database.after turns) {}).answer =
        .ok (some (5, 2)) := by
  intro context told database middle outcome turns
  obtain ⟨atOnce, inRuns⟩ := reads_reported_iff context {}
  have answered : outcome.answer = .ok true := Outcome.answer_eq_ok (by decide +kernel)
  have reported : (database.history turns).filterMap (Event.moved? 1) = [(0, 7), (5, 2)] := by
    decide +kernel
  refine ⟨answered, ?_, rfl, reported, ?_⟩
  · exact (atOnce middle 1 (5, 2) context {} answered).1.mpr (by decide)
  · have read := (inRuns .invites ⟨⟨0⟩, true⟩ turns 1 rfl).1
    rw [reported] at read
    exact read

/-- A new thread is moved to a mark with the post number zero, and nothing is read then. -/
theorem reads_reported_zero :
    let context : Context := { clock := ⟨0⟩ }
    let database := (Database.atRevision .invites ⟨⟨0⟩, true⟩).after threading
    let outcome := (advance (some 1) (some 0) (some 5)).perform context database {}
    database.Reached ∧ outcome.answer = .ok true ∧
      ((lastProcessed (some 1)).perform context outcome.database {}).answer = .ok none := by
  refine ⟨(Database.Reached.founded .invites ⟨⟨0⟩, true⟩).after _, ?_, ?_⟩
  · exact Outcome.answer_eq_ok (by decide +kernel)
  · exact Outcome.answer_eq_ok (by decide +kernel)

end Thread

end Lookout
