import Lookout.Proofs.Plain
import Lookout.Proofs.Queue
import Mathlib.Algebra.Order.BigOperators.Group.List
import Mathlib.Algebra.Ring.Int.Defs

/-!
# Draining the queue

A courier takes what is handed out for delivery, reports of each reply that it was delivered or
that the delivery failed, and takes again, until nothing is handed out. The attempts that are left
to the replies in the queue grow fewer in every round, so the courier comes to an end, whatever it
reports. By then every reply of the first queue has been handed out, and was delivered or tried as
often as the settings allow.
-/

namespace Lookout

open Operation Store
open Time (Moment WallTime)

variable {context : Context} {database after : Database} {draws : Draws}

/-! ### Changing every row by what it is -/

namespace Store.Table

variable {α : Type}

/-- Every row becomes what a function makes of it and its number, which it keeps. -/
def amend (table : Table α) (change : Entry α → α) : Table α where
  entries := table.entries.map fun entry => { entry with row := change entry }
  ascending := List.pairwise_map.mpr table.ascending

end Store.Table

namespace Database

/-- A database with every reply changed by what it is. -/
def amended (database : Database) (change : Entry Reply → Reply) : Database :=
  { database with replies := database.replies.amend change }

theorem mem_amended {entry : Entry Reply} (stored : entry ∈ database.replies.entries)
    (change : Entry Reply → Reply) :
    ⟨entry.id, change entry⟩ ∈ (database.amended change).replies.entries :=
  List.mem_map.mpr ⟨entry, stored, rfl⟩

theorem amended_congr {change others : Entry Reply → Reply}
    (same : ∀ entry ∈ database.replies.entries, change entry = others entry) :
    database.amended change = database.amended others := by
  have sameTable : database.replies.amend change = database.replies.amend others := by
    ext1
    exact List.map_congr_left fun entry stored => by rw [same entry stored]
  rw [amended, amended, sameTable]

theorem amended_self : database.amended (·.row) = database := by
  have sameTable : database.replies.amend (·.row) = database.replies := by
    ext1
    exact List.map_id _
  rw [amended, sameTable]

theorem amended_amended (first second : Entry Reply → Reply) :
    (database.amended first).amended second =
      database.amended fun entry => second ⟨entry.id, first entry⟩ := by
  have sameTable : (database.replies.amend first).amend second =
      database.replies.amend fun entry => second ⟨entry.id, first entry⟩ := by
    ext1
    exact List.map_map
  rw [amended, amended, amended, ← sameTable]

theorem updated_eq_amended (wanted : Entry Reply → Bool) (step : Reply → Reply) :
    database.updated wanted step =
      database.amended fun entry => if wanted entry then step entry.row else entry.row := by
  have sameTable : database.replies.update wanted step =
      database.replies.amend fun entry => if wanted entry then step entry.row else entry.row := by
    ext1
    refine List.map_congr_left fun entry _ => ?_
    by_cases isWanted : wanted entry = true
    · simp only [isWanted, if_true]
    · simp only [isWanted, if_false, Bool.false_eq_true]
  rw [amended, ← sameTable]
  rfl

end Database

/-- Whether a reply is due is not told by other replies. -/
theorem Reply.isDue_amended {reply : Reply} (change : Entry Reply → Reply) :
    reply.IsDue context (database.amended change) ↔ reply.IsDue context database :=
  ⟨fun isDue => { isDue with }, fun isDue => { isDue with }⟩

/-! ### Reports -/

namespace Reply

variable {entry : Entry Reply}

/-- A delivery of a stored reply writes the date, unless there is one. -/
theorem result_markDelivered (newest : database.IsNewest)
    (stored : entry ∈ database.replies.entries) (storable : isStorable entry.id = true)
    (date : Option Moment) (context : Context) (draws : Draws) :
    ((markDelivered (some entry.id) date).perform context database draws).result =
      .ok (entry.row.isUndelivered,
        delivered database (isDeliverable (some entry.id)) (context.moment date)) := by
  have isOpen : 0 < database.replies.count (isDeliverable (some entry.id)) ↔
      entry.row.isUndelivered = true := by
    constructor
    · intro isOne
      obtain ⟨other, isOther, isWanted⟩ := Table.exists_of_count (Nat.ne_of_gt isOne)
      rw [isDeliverable, Bool.and_eq_true, decide_eq_true_iff, Option.some.injEq] at isWanted
      rw [← database.replies.eq_of_id_eq isOther stored isWanted.1]
      exact isWanted.2
    · intro undelivered
      exact List.countP_pos_iff.mpr ⟨entry, stored, by simp [isDeliverable, undelivered]⟩
  have isThere : (delivered database (isDeliverable (some entry.id))
      (context.moment date)).replies.entries.any (fun held => some held.id = some entry.id) =
        true := by
    apply List.any_eq_true.mpr
    refine ⟨_, Database.mem_updated stored _ _, ?_⟩
    split <;> simp
  refine result_perform_of_ends ?_
  simp only [markDelivered, ends_bind, ends_now, ends_require, ends_fits, ends_updateWhere,
    ends_commit, ends_ite, ends_rows, ends_log, ends_pure, newest.missing?_eq_none, reduceCtorEq,
    false_implies, implies_true, true_and, forall_const]
  refine ⟨fun large => ?_, fun _ => ⟨fun written => ?_, fun unwritten => ⟨fun _ => ?_, ?_⟩⟩⟩
  · simp [storable] at large
  · rw [isOpen.mp written]
    rfl
  · rw [Bool.eq_false_iff.mpr (mt isOpen.mpr unwritten)]
    rfl
  · exact fun missing => absurd isThere missing

/-- Where there is none, it changes the reply under the number. -/
theorem delivered_eq_amended (stored : entry ∈ database.replies.entries)
    (isOpen : entry.row.deliveredOn = none) (date : Moment) :
    delivered database (isDeliverable (some entry.id)) date =
      database.amended fun held =>
        if held.id = entry.id then { held.row with deliveredOn := some date.wall }
        else held.row := by
  rw [delivered, Database.updated_eq_amended]
  refine Database.amended_congr fun held isHeld => ?_
  by_cases isIt : held.id = entry.id
  · obtain rfl := database.replies.eq_of_id_eq isHeld stored isIt
    simp [isDeliverable, isUndelivered, isOpen]
  · simp [isDeliverable, isIt]

/-- Failed deliveries are counted together, unless one of the numbers is too large. -/
theorem result_markAttempts (newest : database.IsNewest) (ids : Option (List (Option Int)))
    (context : Context) (draws : Draws) :
    ((markAttempts ids).perform context database draws).result =
      if (ids.getD []).all (fun id => id.all isStorable) then
        .ok (database.replies.count fun held => (ids.getD []).contains (some held.id),
          attempted database (ids.getD []))
      else .error (.store .numberTooLarge) := by
  have nothing : attempted database [] = database :=
    Database.updated_of_count _ _ _ (by simp [Table.count])
  apply result_perform_of_ends
  rcases ids with _ | _ | ⟨first, rest⟩
  · simp [markAttempts, nothing, Table.count]
  · simp [markAttempts, nothing, Table.count]
  · simp only [markAttempts, ends_bind, ends_require, ends_fits, ends_updateWhere, ends_commit,
      ends_log, ends_pure, newest.missing?_eq_none, reduceCtorEq, false_implies, implies_true,
      true_and, forall_const, Option.getD_some]
    constructor
    · intro large
      rw [large, if_neg Bool.false_ne_true]
    · intro storable
      exact if_pos (List.all_eq_true.mpr storable)

/-- A failed delivery is counted where there is such a reply. -/
theorem result_markAttempt (newest : database.IsNewest) (id : Option Int) (context : Context)
    (draws : Draws) :
    ((markAttempt id).perform context database draws).result =
      if id.all isStorable then
        if id.any database.replies.has then .ok ((), attempted database [id])
        else .error (.noReply id)
      else .error (.store .numberTooLarge) := by
  have nothing : database.replies.count (fun held => [id].contains (some held.id)) = 0 ↔
      ¬id.any database.replies.has = true := by
    cases id <;> simp [Table.count, Table.has]
  apply result_perform_of_ends
  simp only [markAttempt, markAttempts, ends_bind, ends_require, ends_fits, ends_updateWhere,
    ends_commit, ends_log, ends_ite, ends_pure, ends_throw, newest.missing?_eq_none, reduceCtorEq,
    false_implies, implies_true, true_and, forall_const, List.all_cons, List.all_nil, Bool.and_true]
  refine ⟨fun large => ?_, fun storable => ⟨fun none => ?_, fun isOne => ?_⟩⟩
  · rw [large, if_neg Bool.false_ne_true]
  · rw [if_pos (storable id (.head _)), if_neg (nothing.mp none)]
  · rw [if_pos (storable id (.head _)), if_pos (not_not.mp (mt nothing.mpr isOne))]
    rfl

/-- It changes the reply under the number. -/
theorem attempted_eq_amended (id : Int) :
    attempted database [some id] = database.amended fun held =>
      if held.id = id then { held.row with attempts := held.row.attempts.map countOneMore }
      else held.row := by
  rw [attempted, Database.updated_eq_amended]
  refine Database.amended_congr fun held _ => ?_
  by_cases isIt : held.id = id <;> simp [isIt]

end Reply

/-- How the delivery of a reply that was handed out went. -/
inductive Report where
  | delivered (date : Option Moment)
  | failed

namespace Report

/-- The request that passes a report on. -/
def request (id : Int) : Report → Request
  | delivered date => .deliverReply (some id) date
  | failed => .countAttempt (some id)

/-- What a report makes of a reply that was not delivered before. -/
def change (context : Context) (row : Reply) : Report → Reply
  | delivered date => { row with deliveredOn := some (context.moment date).wall }
  | failed => { row with attempts := row.attempts.map Reply.countOneMore }

/-- A report of a stored reply that was not delivered before is answered and changes this reply. -/
theorem result_request (report : Report) (context : Context) (draws : Draws)
    (newest : database.IsNewest) {entry : Entry Reply}
    (stored : entry ∈ database.replies.entries) (isOpen : entry.row.deliveredOn = none)
    (storable : isStorable entry.id = true) :
    ∃ answer, ((report.request entry.id).operation.perform context database draws).result =
      .ok (answer, database.amended fun held =>
        if held.id = entry.id then report.change context held.row else held.row) := by
  cases report with
  | delivered date =>
      have told := Reply.result_markDelivered newest stored storable date context draws
      rw [Reply.delivered_eq_amended stored isOpen] at told
      exact ⟨entry.row.isUndelivered, told⟩
  | failed =>
      have told := Reply.result_markAttempt newest (some entry.id) context draws
      have there : database.replies.has entry.id = true := Table.has_iff.mpr ⟨entry, stored, rfl⟩
      rw [Option.all_some, if_pos storable, Option.any_some, if_pos there,
        Reply.attempted_eq_amended] at told
      exact ⟨(), told⟩

end Report

/-! ### Couriers -/

/-- Whoever delivers replies, at a moment that stands still: how many it takes in a round, and what
it reports of each reply in each round. -/
structure Courier where
  context : Context
  limit : Int
  report : Nat → Int → Report

namespace Courier

/-- What a courier takes in a round, and the database by then. -/
def take (courier : Courier) (database : Database) :
    Except Failure (List (Entry Reply) × Database) :=
  ((Reply.pending (some courier.limit)).perform courier.context database {}).result

/-- What a courier leaves who reports of some replies in a round, one after the other. -/
def work (courier : Courier) (round : Nat) : List (Entry Reply) → Database →
    Except Failure Database
  | [], database => return database
  | entry :: rest, database => do
      let request := (courier.report round entry.id).request entry.id
      let (_, middle) ← (request.operation.perform courier.context database {}).result
      courier.work round rest middle

/-- From a round on a courier takes these batches, one in each round, and then nothing more. -/
inductive Drains (courier : Courier) :
    Nat → Database → List (List (Entry Reply)) → Database → Prop where
  | done {round : Nat} {database after : Database}
      (taken : courier.take database = .ok ([], after)) :
      Drains courier round database [] after
  | next {round : Nat} {database asked middle after : Database} {batch : List (Entry Reply)}
      {batches : List (List (Entry Reply))}
      (taken : courier.take database = .ok (batch, asked)) (some : batch ≠ [])
      (worked : courier.work round batch asked = .ok middle)
      (rest : Drains courier (round + 1) middle batches after) :
      Drains courier round database (batch :: batches) after

variable {courier : Courier} {round : Nat} {batches : List (List (Entry Reply))}

/-- What a courier does is settled by what it reports. -/
theorem Drains.unique {others : List (List (Entry Reply))} {other : Database}
    (drains : courier.Drains round database batches after)
    (again : courier.Drains round database others other) : batches = others ∧ after = other := by
  induction drains generalizing others other with
  | done taken =>
      cases again with
      | done retaken =>
          cases taken.symm.trans retaken
          exact ⟨rfl, rfl⟩
      | next retaken some =>
          cases taken.symm.trans retaken
          exact absurd rfl some
  | next taken some worked rest ih =>
      cases again with
      | done retaken =>
          cases taken.symm.trans retaken
          exact absurd rfl some
      | next retaken _ reworked others =>
          cases taken.symm.trans retaken
          cases worked.symm.trans reworked
          obtain ⟨rfl, rfl⟩ := ih others
          exact ⟨rfl, rfl⟩

/-- What becomes of a reply in a round in which the replies under some numbers are reported of. -/
def outcome (courier : Courier) (round : Nat) (ids : List Int) (entry : Entry Reply) : Reply :=
  if entry.id ∈ ids then (courier.report round entry.id).change courier.context entry.row
  else entry.row

/-- Reports of stored replies that were not delivered before are answered, and change these
replies. -/
theorem work_eq (courier : Courier) (round : Nat) (newest : database.IsNewest)
    {batch : List (Entry Reply)} (distinct : (batch.map (·.id)).Nodup)
    (known : ∀ entry ∈ batch, entry ∈ database.replies.entries ∧ entry.row.deliveredOn = none ∧
      isStorable entry.id = true) :
    courier.work round batch database =
        .ok (database.amended (courier.outcome round (batch.map (·.id)))) ∧
      (database.amended (courier.outcome round (batch.map (·.id)))).IsNewest := by
  induction batch generalizing database with
  | nil =>
      have same : database.amended (courier.outcome round []) = database :=
        (Database.amended_congr fun entry _ => if_neg List.not_mem_nil).trans
          Database.amended_self
      rw [List.map_nil, same]
      exact ⟨rfl, newest⟩
  | cons entry rest ih =>
      obtain ⟨apart, distinct⟩ := List.nodup_cons.mp distinct
      obtain ⟨⟨stored, isOpen, storable⟩, others⟩ := List.forall_mem_cons.mp known
      let report := courier.report round entry.id
      let middle := database.amended fun held =>
        if held.id = entry.id then report.change courier.context held.row else held.row
      obtain ⟨answer, done⟩ :=
        report.result_request courier.context {} newest stored isOpen storable
      have newestMiddle : middle.IsNewest := by
        have left := newest.outcome
          { request := report.request entry.id, context := courier.context }
        rwa [Turn.outcome, (Outcome.result_eq_ok_iff.mp done).2] at left
      -- The replies that are still to be reported of have other numbers, and are as they were.
      have knownMiddle : ∀ other ∈ rest, other ∈ middle.replies.entries ∧
          other.row.deliveredOn = none ∧ isStorable other.id = true := by
        intro other isOther
        obtain ⟨isStored, kept⟩ := others other isOther
        have different : other.id ≠ entry.id := fun same =>
          apart (List.mem_map.mpr ⟨other, isOther, same⟩)
        have moved := Database.mem_amended isStored fun held =>
          if held.id = entry.id then report.change courier.context held.row else held.row
        rw [if_neg different] at moved
        exact ⟨moved, kept⟩
      have same : middle.amended (courier.outcome round (rest.map (·.id))) =
          database.amended (courier.outcome round ((entry :: rest).map (·.id))) := by
        refine (Database.amended_amended _ _).trans (Database.amended_congr fun held _ => ?_)
        by_cases isIt : held.id = entry.id
        · simp only [outcome, isIt, apart, if_true, if_false, List.map_cons, List.mem_cons, true_or,
            report]
        · simp only [outcome, isIt, if_false, List.map_cons, List.mem_cons, false_or]
      obtain ⟨worked, stillNewest⟩ := ih newestMiddle distinct knownMiddle
      rw [same] at worked stillNewest
      refine ⟨?_, stillNewest⟩
      rw [work, done]
      exact worked

/-- The queue as a courier finds it. -/
def waiting (courier : Courier) (database : Database) : List (Entry Reply) :=
  Reply.queue database courier.context.clock courier.context.settings.deliveryAttempts

/-- The front of the queue, which the courier takes. -/
def batch (courier : Courier) (database : Database) : List (Entry Reply) :=
  limited (some courier.limit) (courier.waiting database)

/-- What a round leaves. -/
def worked (courier : Courier) (round : Nat) (database : Database) : Database :=
  database.amended (courier.outcome round ((courier.batch database).map (·.id)))

/-- A courier can go round on a database: the store takes the numbers that come up, and each batch
has room for a reply. -/
structure IsReady (courier : Courier) (database : Database) : Prop where
  newest : database.IsNewest
  attempts : isStorable courier.context.settings.deliveryAttempts = true
  limit : isStorable courier.limit = true
  room : courier.limit ≠ 0
  numbers : ∀ entry ∈ courier.waiting database, isStorable entry.id = true

theorem batch_sublist : (courier.batch database).Sublist (courier.waiting database) :=
  Reply.limited_sublist _ _

theorem of_mem_batch {entry : Entry Reply} (isTaken : entry ∈ courier.batch database) :
    entry ∈ database.replies.entries ∧ entry.row.IsDue courier.context database :=
  Reply.mem_queue_iff.mp (batch_sublist.subset isTaken)

/-- A batch with a number in it has the reply under this number. -/
theorem mem_batch_of_id {entry : Entry Reply} (stored : entry ∈ database.replies.entries)
    (isTaken : entry.id ∈ (courier.batch database).map (·.id)) :
    entry ∈ courier.batch database := by
  obtain ⟨other, isOther, same⟩ := List.mem_map.mp isTaken
  rwa [← database.replies.eq_of_id_eq (of_mem_batch isOther).1 stored same]

/-- A reply in the batch becomes what is reported of it. -/
theorem mem_worked_of_taken {entry : Entry Reply} (isTaken : entry ∈ courier.batch database)
    (round : Nat) :
    ⟨entry.id, (courier.report round entry.id).change courier.context entry.row⟩ ∈
      (courier.worked round database).replies.entries := by
  have moved := Database.mem_amended (of_mem_batch isTaken).1
    (courier.outcome round ((courier.batch database).map (·.id)))
  rwa [outcome, if_pos (List.mem_map_of_mem isTaken)] at moved

/-- A reply that is not in the batch stays as it is. -/
theorem mem_worked_of_untaken {entry : Entry Reply} (stored : entry ∈ database.replies.entries)
    (untaken : entry ∉ courier.batch database) (round : Nat) :
    entry ∈ (courier.worked round database).replies.entries := by
  have moved := Database.mem_amended stored
    (courier.outcome round ((courier.batch database).map (·.id)))
  rwa [outcome, if_neg (mt (mem_batch_of_id stored) untaken)] at moved

namespace IsReady

variable (ready : courier.IsReady database)
include ready

theorem batch_eq_nil_iff : courier.batch database = [] ↔ courier.waiting database = [] := by
  have room := ready.room
  simp only [batch, limited]
  split
  · rfl
  · rw [List.take_eq_nil_iff]
    exact or_iff_right (by omega)

theorem take_eq : courier.take database = .ok (courier.batch database, database) := by
  refine Outcome.result_eq_ok_iff.mpr ⟨?_, ?_⟩
  · rw [Reply.answer_pending ready.newest, ready.attempts, Option.all_some, ready.limit,
      Bool.and_self, if_pos rfl]
    rfl
  · let turn : Turn :=
      { request := .pendingReplies (some courier.limit), context := courier.context }
    rcases turn.changes database with same | ⟨_, same⟩
    · exact same
    · exact same

/-- All reports of a round are answered. -/
theorem work_eq (round : Nat) :
    courier.work round (courier.batch database) database = .ok (courier.worked round database) ∧
      (courier.worked round database).IsNewest := by
  refine courier.work_eq round ready.newest ?_ fun entry isTaken => ?_
  · have apart : (courier.waiting database).Pairwise fun left right => left.id ≠ right.id :=
      (Reply.pairwise_queue _ _).imp And.right
    exact List.pairwise_map.mpr (apart.sublist batch_sublist)
  · obtain ⟨stored, isDue⟩ := of_mem_batch isTaken
    exact ⟨stored, isDue.undelivered, ready.numbers entry (batch_sublist.subset isTaken)⟩

end IsReady

/-- What is due after a round was due before it. -/
theorem isDue_of_worked {entry : Entry Reply} (stored : entry ∈ database.replies.entries)
    (isDue : (courier.outcome round ((courier.batch database).map (·.id)) entry).IsDue
      courier.context (courier.worked round database)) :
    entry.row.IsDue courier.context database := by
  by_cases isTaken : entry.id ∈ (courier.batch database).map (·.id)
  · exact (of_mem_batch (mem_batch_of_id stored isTaken)).2
  · rw [outcome, if_neg isTaken] at isDue
    exact (Reply.isDue_amended _).mp isDue

/-- A courier can go on after a round. -/
theorem IsReady.worked (ready : courier.IsReady database) (round : Nat) :
    courier.IsReady (courier.worked round database) := by
  refine { ready with newest := (ready.work_eq round).2, numbers := fun entry isWaiting => ?_ }
  obtain ⟨stored, isDue⟩ := Reply.mem_queue_iff.mp isWaiting
  obtain ⟨old, isOld, rfl⟩ := List.mem_map.mp stored
  exact ready.numbers old (Reply.mem_queue_iff.mpr ⟨isOld, isDue_of_worked isOld isDue⟩)

/-! ### Attempts that are left -/

/-- How many attempts are left to a reply. -/
def left (courier : Courier) (row : Reply) : Int :=
  courier.context.settings.deliveryAttempts - row.attempts.getD 0

/-- How many attempts are left to a reply while it is due. -/
def weight (courier : Courier) (database : Database) (row : Reply) : Int :=
  if row.IsDue courier.context database then courier.left row else 0

/-- How many attempts are left to all replies that are due. -/
def potential (courier : Courier) (database : Database) : Int :=
  (database.replies.entries.map fun entry => courier.weight database entry.row).sum

theorem left_pos {row : Reply} (isDue : row.IsDue courier.context database) :
    0 < courier.left row := by
  obtain ⟨attempts, isCount, below⟩ := isDue.untired
  rw [left, isCount, Option.getD_some]
  omega

theorem weight_nonneg (row : Reply) : 0 ≤ courier.weight database row := by
  unfold weight
  split
  · exact Int.le_of_lt (left_pos ‹_›)
  · exact Int.le_refl 0

theorem potential_nonneg : 0 ≤ courier.potential database :=
  List.sum_nonneg (List.forall_mem_map.mpr fun entry _ => weight_nonneg entry.row)

/-- The attempts that are left are those of the replies in the queue. -/
theorem potential_eq :
    courier.potential database =
      ((courier.waiting database).map fun entry => courier.left entry.row).sum := by
  have sorted : (courier.waiting database).Perm
      (database.replies.entries.filter fun entry => entry.row.IsDue courier.context database) :=
    Reply.queue_perm
  rw [(sorted.map _).sum_eq, potential]
  simp [weight, List.sum_map_ite]

theorem weight_amended (change : Entry Reply → Reply) (row : Reply) :
    courier.weight (database.amended change) row = courier.weight database row := by
  simp only [weight, Reply.isDue_amended]

/-- Whatever is reported of a reply that is due, fewer attempts are left to it. -/
theorem weight_change_lt {row : Reply} (isDue : row.IsDue courier.context database)
    (allowed : isStorable courier.context.settings.deliveryAttempts = true) (report : Report) :
    courier.weight database (report.change courier.context row) < courier.weight database row := by
  have positive := left_pos isDue
  rw [show courier.weight database row = courier.left row from if_pos isDue]
  cases report with
  | delivered date =>
      have isDelivered : ¬((Report.delivered date).change courier.context row).IsDue
          courier.context database := fun isDue => nomatch isDue.undelivered
      rwa [weight, if_neg isDelivered]
  | failed =>
      obtain ⟨attempts, isCount, below⟩ := isDue.untired
      simp only [isStorable, Bool.and_eq_true, decide_eq_true_eq] at allowed
      have oneLess : courier.left (Report.failed.change courier.context row) =
          courier.left row - 1 := by
        simp only [left, Report.change, isCount, Option.map_some, Option.getD_some,
          Reply.countOneMore]
        omega
      unfold weight
      split
      · omega
      · exact positive

/-- Reports leave a reply due, or it was delivered or tried as often as the settings allow. -/
theorem finished_of_change {row : Reply} {report : Report}
    (isDue : row.IsDue courier.context database)
    (allowed : isStorable courier.context.settings.deliveryAttempts = true)
    (done : ¬(report.change courier.context row).IsDue courier.context database) :
    (report.change courier.context row).deliveredOn ≠ none ∨
      (report.change courier.context row).attempts =
        some courier.context.settings.deliveryAttempts := by
  cases report with
  | delivered date => exact .inl (Option.some_ne_none _)
  | failed =>
      obtain ⟨attempts, isCount, below⟩ := isDue.untired
      simp only [isStorable, Bool.and_eq_true, decide_eq_true_eq] at allowed
      have counted : (Report.failed.change courier.context row).attempts = some (attempts + 1) := by
        simp only [Report.change, isCount, Option.map_some, Reply.countOneMore]
        congr 1
        omega
      have tried : ¬attempts + 1 < courier.context.settings.deliveryAttempts := fun more =>
        done { isDue with untired := ⟨attempts + 1, counted, more⟩ }
      refine .inr (counted.trans (congrArg some ?_))
      omega

/-- In a round with a batch the attempts that are left grow fewer. -/
theorem IsReady.potential_worked_lt (ready : courier.IsReady database)
    (some : courier.batch database ≠ []) (round : Nat) :
    courier.potential (courier.worked round database) < courier.potential database := by
  let outcome := courier.outcome round ((courier.batch database).map (·.id))
  have moved : courier.potential (courier.worked round database) =
      (database.replies.entries.map fun entry => courier.weight database (outcome entry)).sum := by
    simp only [potential, Courier.worked, weight_amended]
    rw [Database.amended, Table.amend, List.map_map]
    rfl
  have less : ∀ entry ∈ courier.batch database,
      courier.weight database (outcome entry) < courier.weight database entry.row := by
    intro entry isTaken
    have isNumber : entry.id ∈ (courier.batch database).map (·.id) :=
      List.mem_map.mpr ⟨entry, isTaken, rfl⟩
    rw [show outcome entry = _ from if_pos isNumber]
    exact weight_change_lt (of_mem_batch isTaken).2 ready.attempts _
  rw [moved]
  refine List.sum_lt_sum _ _ (fun entry stored => ?_) ?_
  · by_cases isTaken : entry.id ∈ (courier.batch database).map (·.id)
    · exact Int.le_of_lt (less entry (mem_batch_of_id stored isTaken))
    · exact Int.le_of_eq (congrArg _ (if_neg isTaken))
  · obtain ⟨entry, isTaken⟩ := List.exists_mem_of_ne_nil _ some
    exact ⟨entry, (of_mem_batch isTaken).1, less entry isTaken⟩

/-! ### Draining -/

/-- A courier drains the queue in no more rounds than there are attempts left. -/
theorem IsReady.drains {database : Database} (ready : courier.IsReady database) (round : Nat) :
    ∃ batches after, courier.Drains round database batches after ∧
      (batches.length : Int) ≤ courier.potential database := by
  by_cases nothing : courier.batch database = []
  · exact ⟨[], database, .done (nothing ▸ ready.take_eq), potential_nonneg⟩
  · have less := ready.potential_worked_lt nothing round
    have positive : 0 ≤ courier.potential (courier.worked round database) := potential_nonneg
    obtain ⟨batches, after, drains, bound⟩ := (ready.worked round).drains (round + 1)
    refine ⟨courier.batch database :: batches, after,
      .next ready.take_eq nothing (ready.work_eq round).1 drains, ?_⟩
    rw [List.length_cons]
    omega
termination_by (courier.potential database).toNat

/-- Either nothing waits for a courier, or it takes a batch and goes on where the round ends. -/
theorem IsReady.drains_cases (ready : courier.IsReady database)
    (drains : courier.Drains round database batches after) :
    (batches = [] ∧ after = database ∧ courier.waiting database = []) ∨
      ∃ rest, batches = courier.batch database :: rest ∧
        courier.Drains (round + 1) (courier.worked round database) rest after := by
  cases drains with
  | done taken =>
      rw [ready.take_eq, Except.ok.injEq, Prod.mk.injEq] at taken
      exact .inl ⟨rfl, taken.2.symm, ready.batch_eq_nil_iff.mp taken.1⟩
  | next taken some worked rest =>
      cases ready.take_eq.symm.trans taken
      cases (ready.work_eq round).1.symm.trans worked
      exact .inr ⟨_, rfl, rest⟩

/-- A courier leaves alone what is not due. -/
theorem IsReady.mem_of_drains (ready : courier.IsReady database)
    (drains : courier.Drains round database batches after) {entry : Entry Reply}
    (stored : entry ∈ database.replies.entries)
    (done : ¬entry.row.IsDue courier.context database) : entry ∈ after.replies.entries := by
  induction batches generalizing round database with
  | nil =>
      rcases ready.drains_cases drains with ⟨-, rfl, -⟩ | ⟨_, isMore, -⟩
      · exact stored
      · cases isMore
  | cons batch batches ih =>
      rcases ready.drains_cases drains with ⟨isEmpty, -, -⟩ | ⟨rest, same, goesOn⟩
      · cases isEmpty
      · cases same
        have untaken : entry ∉ courier.batch database := fun isTaken =>
          done (of_mem_batch isTaken).2
        exact ih (ready.worked round) goesOn (mem_worked_of_untaken stored untaken round)
          fun isDue => done ((Reply.isDue_amended _).mp isDue)

/-- A courier takes every reply that is due, and brings it to an end. -/
theorem IsReady.finishes (ready : courier.IsReady database)
    (drains : courier.Drains round database batches after) {entry : Entry Reply}
    (stored : entry ∈ database.replies.entries)
    (isDue : entry.row.IsDue courier.context database) :
    (∃ batch ∈ batches, entry.id ∈ batch.map (·.id)) ∧
      ∃ row, ⟨entry.id, row⟩ ∈ after.replies.entries ∧ (row.deliveredOn ≠ none ∨
        row.attempts = some courier.context.settings.deliveryAttempts) := by
  induction batches generalizing round database entry with
  | nil =>
      rcases ready.drains_cases drains with ⟨-, -, nothing⟩ | ⟨_, isMore, -⟩
      · have isWaiting : entry ∈ courier.waiting database :=
          Reply.mem_queue_iff.mpr ⟨stored, isDue⟩
        rw [nothing] at isWaiting
        cases isWaiting
      · cases isMore
  | cons batch batches ih =>
      rcases ready.drains_cases drains with ⟨isEmpty, -, -⟩ | ⟨rest, same, goesOn⟩
      · cases isEmpty
      · cases same
        by_cases isTaken : entry ∈ courier.batch database
        · refine ⟨⟨_, List.mem_cons_self, List.mem_map_of_mem isTaken⟩, ?_⟩
          have moved := mem_worked_of_taken isTaken round
          by_cases still : ((courier.report round entry.id).change courier.context entry.row).IsDue
              courier.context (courier.worked round database)
          · exact (ih (ready.worked round) goesOn moved still).2
          · exact ⟨_, (ready.worked round).mem_of_drains goesOn moved still,
              finished_of_change isDue ready.attempts (mt (Reply.isDue_amended _).mpr still)⟩
        · have moved := mem_worked_of_untaken stored isTaken round
          obtain ⟨⟨later, isLater, handed⟩, finished⟩ :=
            ih (ready.worked round) goesOn moved ((Reply.isDue_amended _).mpr isDue)
          exact ⟨⟨later, List.mem_cons_of_mem _ isLater, handed⟩, finished⟩

/-- Whatever a courier reports, it drains the queue of a reached database of the newest revision
in one way, where the store takes the numbers that come up and each batch has room for a reply. It
takes no more batches than there are attempts left to the replies in the queue, and each of these
replies is in a batch and was delivered or tried as often as the settings allow in the end. -/
theorem drains_queue {queue : List (Entry Reply)} (reached : database.Reached)
    (newest : database.position = some .invites)
    (attempts : isStorable courier.context.settings.deliveryAttempts = true)
    (limit : isStorable courier.limit = true) (room : courier.limit < 0 ∨ 1 ≤ courier.limit)
    (isQueue : Reply.IsQueue courier.context database queue)
    (numbers : ∀ entry ∈ queue, isStorable entry.id = true) :
    ∃ batches after, courier.Drains 0 database batches after ∧
      (∀ others other, courier.Drains 0 database others other → others = batches ∧ other = after) ∧
      (batches.length : Int) ≤ (queue.map fun entry => courier.left entry.row).sum ∧
      ∀ entry ∈ queue, (∃ batch ∈ batches, entry.id ∈ batch.map (·.id)) ∧
        ∃ row, ⟨entry.id, row⟩ ∈ after.replies.entries ∧ (row.deliveredOn ≠ none ∨
          row.attempts = some courier.context.settings.deliveryAttempts) := by
  obtain rfl : queue = courier.waiting database :=
    isQueue.unique (Reply.isQueue_queue reached.isStamped)
  have ready : courier.IsReady database :=
    { newest := reached.isNewest newest, attempts, limit, room := by omega, numbers }
  obtain ⟨batches, after, drains, bound⟩ := ready.drains 0
  refine ⟨batches, after, drains, fun others other again => again.unique drains,
    potential_eq ▸ bound, fun entry isWaiting => ?_⟩
  obtain ⟨stored, isDue⟩ := Reply.mem_queue_iff.mp isWaiting
  exact ready.finishes drains stored isDue

/-- Two replies are drained one by one in no more than four rounds, where each of them may be tried
twice and every other report tells of a failure. -/
theorem drains_queue_two :
    let database := (Database.atRevision .invites ⟨⟨0⟩, true⟩).after <|
      [.upsertAccount (some "a") (some (Moment.utc ⟨60000000⟩)),
        .resolveThread (some "s") (some "b") (some 1),
        .resolveDescriptor (some 1) (some 2) (some 0),
        .resolveDescriptor (some 1) (some 3) (some 0),
        .recordReply (some 1) (some 2) (some 1),
        .recordReply (some 1) (some 1) (some 2)].map fun request =>
          { request, context := { clock := ⟨0⟩ } }
    let courier : Courier :=
      { context := { clock := ⟨0⟩, settings := { deliveryAttempts := 2 } }
        limit := 1
        report := fun round _ => if round % 2 = 0 then .failed else .delivered none }
    let queue := ([1, 2] : List Int).filterMap database.replies.get?
    database.Reached ∧ database.position = some .invites ∧
      Reply.IsQueue courier.context database queue ∧
      ∃ batches after, courier.Drains 0 database batches after ∧ batches.length ≤ 4 := by
  intro database courier queue
  have reached : database.Reached := (Database.Reached.founded .invites ⟨⟨0⟩, true⟩).after _
  have newest : database.position = some .invites := by decide +kernel
  have isQueue : Reply.IsQueue courier.context database queue := by decide +kernel
  have numbers : ∀ entry ∈ queue, isStorable entry.id = true := by decide +kernel
  obtain ⟨batches, after, drains, -, bound, -⟩ :=
    drains_queue reached newest (by decide) (by decide) (.inr (by decide)) isQueue numbers
  have four : (queue.map fun entry => courier.left entry.row).sum = 4 := by decide +kernel
  rw [four] at bound
  exact ⟨reached, newest, isQueue, batches, after, drains, by omega⟩

/-- No courier drains a queue with a reply in it whose batches, or whose limit of attempts, have a
size that cannot be stored. -/
theorem not_drains_unstorable :
    let database := (Database.atRevision .invites ⟨⟨0⟩, true⟩).after <|
      [.upsertAccount (some "a") (some (Moment.utc ⟨60000000⟩)),
        .resolveThread (some "s") (some "b") (some 1),
        .resolveDescriptor (some 1) (some 2) (some 0),
        .resolveDescriptor (some 1) (some 3) (some 0),
        .recordReply (some 1) (some 2) (some 1)].map fun request =>
          { request, context := { clock := ⟨0⟩ } }
    let report : Nat → Int → Report := fun _ _ => .delivered none
    let wide : Courier := { context := { clock := ⟨0⟩ }, limit := Cell.maxInteger + 1, report }
    let patient : Courier :=
      { context := { clock := ⟨0⟩, settings := { deliveryAttempts := Cell.maxInteger + 1 } }
        limit := 1
        report }
    database.Reached ∧ database.position = some .invites ∧
      ∀ courier ∈ [wide, patient], 1 ≤ courier.limit ∧
        Reply.IsQueue courier.context database (([1] : List Int).filterMap database.replies.get?) ∧
        ¬∃ batches after, courier.Drains 0 database batches after := by
  intro database report wide patient
  have reached : database.Reached := (Database.Reached.founded .invites ⟨⟨0⟩, true⟩).after _
  have newest : database.position = some .invites := by decide +kernel
  -- What cannot be taken does not end a round, and no round begins with it.
  have stuck {courier : Courier} (large : (isStorable courier.context.settings.deliveryAttempts &&
      (some courier.limit).all isStorable) = false) :
      ¬∃ batches after, courier.Drains 0 database batches after := by
    have refused : courier.take database = .error (.store .numberTooLarge) := by
      refine Outcome.result_eq_error_iff.mpr ?_
      rw [Reply.answer_pending (reached.isNewest newest), large, if_neg Bool.false_ne_true]
    rintro ⟨_, _, drains⟩
    cases drains with
    | done taken => cases refused.symm.trans taken
    | next taken => cases refused.symm.trans taken
  refine ⟨reached, newest, List.forall_mem_cons.mpr ⟨⟨by decide, by decide +kernel, stuck ?_⟩,
    List.forall_mem_singleton.mpr ⟨by decide, by decide +kernel, stuck ?_⟩⟩⟩
  · decide
  · decide

end Courier

end Lookout
