import Lookout.Proofs.Histories
import Lookout.Proofs.Reachability

/-!
# Delivery

The date on which a reply was delivered is written once and stays, and failed attempts are only
ever added. So among all the calls that deliver replies, one by one or many together, at most one
counts a given reply. Once it is delivered, or was tried as often as the limit says, it is never
handed out again.
-/

namespace Lookout

open Operation Store
open Schema (TableName)
open Time (Moment Stamp WallTime)

variable {context : Context} {database before after : Database}

/-- Whether a request deletes an account, and with it the replies that it owns. -/
def Request.isDeletion : Request → Prop
  | deleteAccount .. => True
  | _ => False

/-- Whether a request delivers replies. -/
def Request.isDelivery : Request → Prop
  | deliverReply .. | deliverReplies .. => True
  | _ => False

namespace Reply

/-- What a request can do to a reply that stays: nothing, count a failed attempt, or write the
date of delivery if there is none. -/
inductive Step (request : Request) (row : Reply) : Reply → Prop where
  | same : Step request row row
  | attempted : Step request row { row with attempts := row.attempts.map countOneMore }
  | delivered (isDelivery : request.isDelivery) (isOpen : row.isUndelivered = true)
      (date : Moment) : Step request row { row with deliveredOn := some date.wall }

/-- A reply goes on: it is the same, but may have been delivered and tried more often. -/
structure Progress (row later : Reply) : Prop where
  same : later = { row with attempts := later.attempts, deliveredOn := later.deliveredOn }
  attempts : Option.Rel (· ≤ ·) row.attempts later.attempts
  delivered : ∀ date, row.deliveredOn = some date → later.deliveredOn = some date

/-- Attempts are counted up to two to the power of 63. -/
def IsCounted (row : Reply) : Prop :=
  ∀ count, row.attempts = some count → count ≤ Cell.maxInteger + 1

theorem Inserted.mem {account descriptor replyTo : Option Int} {answer : Int × Bool}
    {entry : Entry Reply}
    (inserted : Inserted context before account descriptor replyTo answer after)
    (stored : entry ∈ before.replies.entries) : entry ∈ after.replies.entries := by
  cases inserted with
  | intro prepared inserts =>
      cases inserts with
      | present found => exact stored
      | added absent admitted => exact Database.mem_added stored _

theorem InsertedAll.mem {values : List Value} {count : Nat} {entry : Entry Reply}
    (inserted : InsertedAll context before values count after)
    (stored : entry ∈ before.replies.entries) : entry ∈ after.replies.entries := by
  induction inserted with
  | nil database => exact stored
  | cons first others ih => exact ih (first.mem stored)

variable {request : Request} {entry : Entry Reply}

/-- Counting failed attempts is a step of every reply. -/
theorem attempted_step (stored : entry ∈ before.replies.entries) (ids : List (Option Int)) :
    ∃ row, ⟨entry.id, row⟩ ∈ (attempted before ids).replies.entries ∧
      Step request entry.row row := by
  have changed := Database.mem_updated stored (fun entry => ids.contains (some entry.id))
    fun row => { row with attempts := row.attempts.map countOneMore }
  split at changed
  · exact ⟨_, changed, .attempted⟩
  · exact ⟨_, changed, .same⟩

/-- So is writing the date of delivery where there is none. -/
theorem delivered_step (stored : entry ∈ before.replies.entries) {wanted : Entry Reply → Bool}
    (isOpen : wanted entry = true → entry.row.isUndelivered = true)
    (isDelivery : request.isDelivery) (date : Moment) :
    ∃ row, ⟨entry.id, row⟩ ∈ (delivered before wanted date).replies.entries ∧
      Step request entry.row row := by
  have changed := Database.mem_updated stored wanted
    fun row => { row with deliveredOn := some date.wall }
  split at changed
  · rename_i isWanted
    exact ⟨_, changed, .delivered isDelivery (isOpen isWanted) date⟩
  · exact ⟨_, changed, .same⟩

end Reply

/-- A request that has had its effect has taken a step with every reply that is still there. -/
theorem Request.Effect.step {request : Request} {answer : request.Answer} {entry : Entry Reply}
    (effective : request.Effect context before answer after)
    (stored : entry ∈ before.replies.entries)
    (stays : request.isDeletion → after.replies.has entry.id = true) :
    ∃ row, ⟨entry.id, row⟩ ∈ after.replies.entries ∧ Reply.Step request entry.row row := by
  by_cases written : .replies ∈ request.writes
  · cases request with
    | deleteAccount accountId =>
        obtain ⟨-, rfl⟩ := effective
        obtain ⟨kept, isKept, same⟩ := Table.has_iff.mp (stays trivial)
        obtain rfl := before.replies.eq_of_id_eq (List.mem_filter.mp isKept).1 stored same
        exact ⟨kept.row, isKept, .same⟩
    | recordReply account descriptor replyTo =>
        obtain ⟨isNew, inserted⟩ := effective
        exact ⟨entry.row, inserted.mem stored, .same⟩
    | recordReplies edges =>
        obtain ⟨given, _, inserted⟩ := effective
        exact ⟨entry.row, inserted.mem stored, .same⟩
    | countAttempt id =>
        obtain ⟨_, rfl⟩ := effective
        exact Reply.attempted_step stored [id]
    | countAttempts ids =>
        obtain ⟨_, rfl⟩ := effective
        exact Reply.attempted_step stored _
    | deliverReply id date =>
        obtain ⟨_, _, rfl⟩ := effective
        have isDelivery : (deliverReply id date).isDelivery := trivial
        refine Reply.delivered_step stored (fun isWanted => ?_) isDelivery _
        exact (Bool.and_eq_true_iff.mp isWanted).2
    | deliverReplies accountId ids date =>
        obtain ⟨_, rfl⟩ := effective
        have isDelivery : (deliverReplies accountId ids date).isDelivery := trivial
        refine Reply.delivered_step stored (fun isWanted => ?_) isDelivery _
        exact (Bool.and_eq_true_iff.mp isWanted).2
    | _ => simp [Request.writes] at written
  · have same : before.replies = after.replies := effective.writes.agree written
    exact ⟨entry.row, same ▸ stored, .same⟩

/-- So has a turn, however it ends. -/
theorem Turn.step (turn : Turn) {entry : Entry Reply}
    (stored : entry ∈ database.replies.entries)
    (stays : turn.request.isDeletion →
      (turn.outcome database).database.replies.has entry.id = true) :
    ∃ row, ⟨entry.id, row⟩ ∈ (turn.outcome database).database.replies.entries ∧
      Reply.Step turn.request entry.row row := by
  rcases turn.changes database with same | ⟨answer, effective⟩
  · exact ⟨entry.row, same.symm ▸ stored, .same⟩
  · exact effective.step stored stays

namespace Reply

variable {request : Request} {row later last : Reply}

theorem Progress.refl (row : Reply) : row.Progress row where
  same := rfl
  attempts := by
    cases row.attempts with
    | none => exact .none
    | some count => exact .some (Int.le_refl count)
  delivered _ isDate := isDate

theorem Progress.trans (first : row.Progress later) (second : later.Progress last) :
    row.Progress last where
  same := by
    rw [second.same, first.same]
  attempts := by
    have below := first.attempts
    have above := second.attempts
    generalize row.attempts = counts, later.attempts = more, last.attempts = most at below above
    cases below with
    | none => exact above
    | some isLess =>
        cases above with
        | some isMore => exact .some (Int.le_trans isLess isMore)
  delivered date isDate := second.delivered date (first.delivered date isDate)

/-- A date of delivery stays. -/
theorem Step.delivered_mono (step : Step request row later) {date : WallTime}
    (isDate : row.deliveredOn = some date) : later.deliveredOn = some date := by
  cases step with
  | delivered isDelivery isOpen =>
      rw [isUndelivered, isDate] at isOpen
      cases isOpen
  | _ => exact isDate

/-- Each step goes on with a reply. -/
theorem Step.progress (step : Step request row later) (counted : row.IsCounted) :
    row.Progress later := by
  refine ⟨?_, ?_, fun _ isDate => step.delivered_mono isDate⟩
  · cases step <;> rfl
  · cases step with
    | attempted =>
        cases held : row.attempts with
        | none => exact .none
        | some count =>
            have bound := counted count held
            exact .some (by unfold countOneMore; omega)
    | _ => exact (Progress.refl row).attempts

/-- Counting one more attempt stops at the bound. -/
theorem isCounted_attempted (row : Reply) :
    { row with attempts := row.attempts.map countOneMore }.IsCounted := by
  intro count isCount
  obtain ⟨old, _, rfl⟩ := Option.map_eq_some_iff.mp isCount
  exact Int.min_le_right _ _

/-- No step counts further than attempts are counted. -/
theorem Step.isCounted (step : Step request row later) (counted : row.IsCounted) :
    later.IsCounted := by
  cases step with
  | attempted => exact isCounted_attempted row
  | _ => exact counted

/-- Only a delivery writes the date of delivery. -/
theorem Step.deliveredOn_eq (step : Step request row later) (other : ¬request.isDelivery) :
    later.deliveredOn = row.deliveredOn := by
  cases step with
  | delivered isDelivery => exact absurd isDelivery other
  | _ => rfl

end Reply

/-- What holds of every reply that is recorded, and goes on to hold where a failed attempt is
counted or the date of delivery is written. -/
structure Reply.IsStable (property : Reply → Prop) : Prop where
  recorded : ∀ clock account descriptor replyTo,
    property { account, descriptor, replyTo, createdOn := Stamp.ofClock clock }
  attempted : ∀ row, property row →
    property { row with attempts := row.attempts.map countOneMore }
  delivered : ∀ row date, property row → property { row with deliveredOn := some date }

namespace Reply.IsStable

variable {property : Reply → Prop}

theorem inserted (stable : IsStable property) {account descriptor replyTo : Option Int}
    {answer : Int × Bool} (holds : ∀ entry ∈ before.replies.entries, property entry.row)
    (inserted : Inserted context before account descriptor replyTo answer after) :
    ∀ entry ∈ after.replies.entries, property entry.row := by
  cases inserted with
  | intro prepared inserts =>
      cases inserts with
      | present found => exact holds
      | added absent admitted =>
          intro entry stored
          rcases List.mem_append.mp stored with old | new
          · exact holds entry old
          · rw [List.mem_singleton.mp new]
            exact stable.recorded context.clock _ _ _

theorem insertedAll (stable : IsStable property) {values : List Value} {count : Nat}
    (holds : ∀ entry ∈ before.replies.entries, property entry.row)
    (inserted : InsertedAll context before values count after) :
    ∀ entry ∈ after.replies.entries, property entry.row := by
  induction inserted with
  | nil database => exact holds
  | cons first others ih => exact ih (stable.inserted holds first)

theorem updated {wanted : Entry Reply → Bool} {step : Reply → Reply}
    (holds : ∀ entry ∈ before.replies.entries, property entry.row)
    (keeps : ∀ row, property row → property (step row)) :
    ∀ entry ∈ (before.updated wanted step).replies.entries, property entry.row := by
  intro entry stored
  obtain ⟨old, isOld, rfl⟩ := List.mem_map.mp stored
  split
  · exact keeps old.row (holds old isOld)
  · exact holds old isOld

/-- No request makes it fail of a reply. -/
theorem effect (stable : IsStable property) {request : Request} {answer : request.Answer}
    (effective : request.Effect context before answer after)
    (holds : ∀ entry ∈ before.replies.entries, property entry.row) :
    ∀ entry ∈ after.replies.entries, property entry.row := by
  by_cases written : .replies ∈ request.writes
  · cases request with
    | deleteAccount accountId =>
        obtain ⟨-, rfl⟩ := effective
        exact fun entry stored => holds entry (List.mem_filter.mp stored).1
    | recordReply account descriptor replyTo =>
        obtain ⟨_, inserted⟩ := effective
        exact stable.inserted holds inserted
    | recordReplies edges =>
        obtain ⟨_, _, inserted⟩ := effective
        exact stable.insertedAll holds inserted
    | countAttempt id =>
        obtain ⟨_, rfl⟩ := effective
        exact updated holds stable.attempted
    | countAttempts ids =>
        obtain ⟨_, rfl⟩ := effective
        exact updated holds stable.attempted
    | deliverReply id date =>
        obtain ⟨_, _, rfl⟩ := effective
        exact updated holds fun row => stable.delivered row _
    | deliverReplies accountId ids date =>
        obtain ⟨_, rfl⟩ := effective
        exact updated holds fun row => stable.delivered row _
    | _ => simp [Request.writes] at written
  · have same : before.replies = after.replies := effective.writes.agree written
    rwa [← same]

end Reply.IsStable

namespace Database

/-- Removing rows brings no replies. -/
theorem replies_erase_subset (database : Database) (table : TableName) (gone : Int → Bool) :
    (database.erase table gone).replies.entries ⊆ database.replies.entries := by
  cases table with
  | accounts | threads | descriptors | replies => exact List.filter_sublist.subset
  | _ => exact List.Subset.refl _

/-- What is stable of a reply holds of all replies in every reachable database. -/
theorem Reached.forall_replies {property : Reply → Prop} (stable : Reply.IsStable property)
    (reached : database.Reached) : ∀ entry ∈ database.replies.entries, property entry.row := by
  have lasting : Migration.IsLasting fun database : Database =>
      ∀ entry ∈ database.replies.entries, property entry.row :=
    Migration.isLasting_forall replies_erase_subset (fun _ _ => rfl) (fun _ _ => rfl)
      fun _ _ => rfl
  refine reached.of_isLasting lasting ?_ ?_ fun turn before holds => ?_
  · exact fun _ stored => absurd stored List.not_mem_nil
  · exact fun _ _ _ stored => absurd stored List.not_mem_nil
  · rcases turn.changes before with same | ⟨answer, effective⟩
    · rwa [same]
    · exact stable.effect effective holds

/-- The attempts of all replies are counted up to the same bound. -/
def IsCounted (database : Database) : Prop :=
  ∀ entry ∈ database.replies.entries, entry.row.IsCounted

/-- In every reachable database the attempts of all replies are counted. -/
theorem Reached.isCounted (reached : database.Reached) : database.IsCounted :=
  reached.forall_replies
    { recorded := by
        rintro clock account descriptor replyTo count ⟨⟩
        decide
      attempted := fun row _ => Reply.isCounted_attempted row
      delivered := fun _ _ counted => counted }

end Database

/-- The date on which the reply under a number was delivered. -/
def Database.deliveryOf (database : Database) (id : Int) : Option WallTime :=
  (database.replies.get? id).bind fun entry => entry.row.deliveredOn

/-- Whether a call delivers the reply under a number: a call for this reply answers that it wrote
the date, or the reply has its date from a call for many. -/
def Event.delivers (id : Int) : Event → Bool
  | ⟨⟨.deliverReply given date, context, draws⟩, before⟩ =>
      given = some id &&
        ((Reply.markDelivered given date).perform context before draws).answer.toOption = some true
  | ⟨⟨.deliverReplies accountId ids date, context, draws⟩, before⟩ =>
      let outcome := (Reply.markDeliveredFor accountId ids date).perform context before draws
      outcome.answer.toOption.isSome && (before.deliveryOf id).isNone &&
        (outcome.database.deliveryOf id).isSome
  | _ => false

/-- A stored reply is the one under its number. -/
theorem Database.deliveryOf_eq {id : Int} {row : Reply}
    (stored : ⟨id, row⟩ ∈ database.replies.entries) : database.deliveryOf id = row.deliveredOn := by
  unfold deliveryOf
  rw [Table.get?_of_mem stored]
  rfl

/-- Writing the date of delivery for replies of a kind gives it to these replies. -/
theorem Reply.deliveryOf_delivered {entry : Entry Reply}
    (stored : entry ∈ before.replies.entries) (wanted : Entry Reply → Bool) (date : Moment) :
    (delivered before wanted date).deliveryOf entry.id =
      if wanted entry then some date.wall else entry.row.deliveredOn := by
  have changed := Database.mem_updated stored wanted
    fun row => { row with deliveredOn := some date.wall }
  cases isWanted : wanted entry with
  | true =>
      rw [isWanted] at changed
      exact Database.deliveryOf_eq changed
  | false =>
      rw [isWanted] at changed
      exact Database.deliveryOf_eq changed

namespace Event

variable {entry : Entry Reply} {draws : Draws}

/-- A reply without a date that has one later has been written to. -/
theorem not_written {date later : Option WallTime} (same : later = date) :
    ¬(date = none ∧ later.isSome = true) := by
  rintro ⟨rfl, isWritten⟩
  rw [same] at isWritten
  cases isWritten

/-- A call for one reply answers whether it wrote the date of this reply. -/
theorem delivers_deliverReply {given : Option Int} {date : Option Moment}
    (stored : entry ∈ before.replies.entries) :
    let event : Event := ⟨⟨.deliverReply given date, context, draws⟩, before⟩
    event.delivers entry.id = true ↔
      entry.row.deliveredOn = none ∧ (event.after.deliveryOf entry.id).isSome = true := by
  intro event
  rcases event.turn.ends trivial before with ⟨isWritten, answered, -, writes, same⟩ |
    ⟨failure, answered, same⟩
  · have told : ((Reply.markDelivered given date).perform context before draws).answer =
      .ok isWritten := answered
    change isWritten = _ at writes
    have written : event.after.deliveryOf entry.id = _ :=
      (congrArg (Database.deliveryOf · entry.id) same).trans
        (Reply.deliveryOf_delivered stored _ _)
    by_cases wanted : Reply.isDeliverable given entry = true
    · have isPositive : 0 < before.replies.count (Reply.isDeliverable given) :=
        List.countP_pos_iff.mpr ⟨entry, stored, wanted⟩
      rw [Reply.isDeliverable, Bool.and_eq_true, decide_eq_true_eq, Reply.isUndelivered,
        Option.isNone_iff_eq_none] at wanted
      refine iff_of_true ?_ ⟨wanted.2, ?_⟩
      · simp [event, delivers, told, Except.toOption, writes, isPositive, wanted.1]
      · rw [written, Reply.isDeliverable]
        simp [wanted, Reply.isUndelivered]
    · refine iff_of_false ?_ (not_written (written.trans (if_neg wanted)))
      simp only [event, delivers, told, Except.toOption, writes, Bool.and_eq_true,
        decide_eq_true_eq, Option.some.injEq, not_and]
      rintro rfl isPositive
      -- Whatever such a call writes to has the number that it names, so it is this reply.
      obtain ⟨other, isOther, isWanted⟩ := List.countP_pos_iff.mp isPositive
      have sameId : other.id = entry.id := by
        simpa [Reply.isDeliverable] using (Bool.and_eq_true_iff.mp isWanted).1
      exact wanted (before.replies.eq_of_id_eq isOther stored sameId ▸ isWanted)
  · have failed : ((Reply.markDelivered given date).perform context before draws).answer =
      .error failure := answered
    refine iff_of_false (by simp [event, delivers, failed, Except.toOption]) (not_written ?_)
    exact (congrArg (Database.deliveryOf · entry.id) same).trans (Database.deliveryOf_eq stored)

/-- A call for many replies writes the dates of those that it counts. -/
theorem delivers_deliverReplies {accountId : Option String} {ids : Option (List (Option Int))}
    {date : Option Moment} (stored : entry ∈ before.replies.entries) :
    let event : Event := ⟨⟨.deliverReplies accountId ids date, context, draws⟩, before⟩
    event.delivers entry.id = true ↔
      entry.row.deliveredOn = none ∧ (event.after.deliveryOf entry.id).isSome = true := by
  intro event
  have found : before.deliveryOf entry.id = entry.row.deliveredOn := Database.deliveryOf_eq stored
  rcases event.turn.ends trivial before with ⟨count, answered, -⟩ | ⟨failure, answered, same⟩
  · have told : ((Reply.markDeliveredFor accountId ids date).perform context before draws).answer =
      .ok count := answered
    simp only [event, delivers, told, Except.toOption, found, Option.isSome_some, Bool.true_and,
      Bool.and_eq_true, Option.isNone_iff_eq_none]
    exact Iff.rfl
  · have failed : ((Reply.markDeliveredFor accountId ids date).perform context before
      draws).answer = .error failure := answered
    refine iff_of_false (by simp [event, delivers, failed, Except.toOption]) (not_written ?_)
    exact (congrArg (Database.deliveryOf · entry.id) same).trans found

/-- A call delivers a reply that stays exactly where it finds it without a date and leaves it
with one. -/
theorem delivers_iff {event : Event} (stored : entry ∈ event.before.replies.entries)
    (stays : event.after.replies.has entry.id = true) :
    event.delivers entry.id = true ↔
      entry.row.deliveredOn = none ∧ (event.after.deliveryOf entry.id).isSome = true := by
  by_cases isDelivery : event.turn.request.isDelivery
  · obtain ⟨⟨request, context, draws⟩, before⟩ := event
    cases request with
    | deliverReply given date => exact delivers_deliverReply stored
    | deliverReplies accountId ids date => exact delivers_deliverReplies stored
    | _ => exact isDelivery.elim
  · obtain ⟨row, isStored, step⟩ := event.turn.step stored fun _ => stays
    have same := (Database.deliveryOf_eq isStored).trans (step.deliveredOn_eq isDelivery)
    refine iff_of_false ?_ (not_written same)
    obtain ⟨⟨request, context, draws⟩, before⟩ := event
    cases request with
    | deliverReply => exact absurd trivial isDelivery
    | deliverReplies => exact absurd trivial isDelivery
    | _ => exact Bool.false_ne_true

/-- The answer to a call for many replies is how many it delivers. -/
theorem count_delivers {accountId : Option String} {ids : Option (List (Option Int))}
    {date : Option Moment} {count : Nat}
    (answered : ((Reply.markDeliveredFor accountId ids date).perform context before
      draws).answer = .ok count) :
    count = before.replies.count fun reply =>
      delivers reply.id ⟨⟨.deliverReplies accountId ids date, context, draws⟩, before⟩ := by
  let event : Event := ⟨⟨.deliverReplies accountId ids date, context, draws⟩, before⟩
  obtain ⟨counted, same⟩ := (Reply.markDeliveredFor_achieves accountId ids date).of_answer answered
  refine counted.trans (List.countP_congr fun reply stored => ?_)
  refine Iff.trans ?_ (delivers_deliverReplies stored).symm
  change _ ↔ reply.row.deliveredOn = none ∧ (event.after.deliveryOf reply.id).isSome = true
  have written : event.after.deliveryOf reply.id = _ :=
    (congrArg (Database.deliveryOf · reply.id) same).trans
      (Reply.deliveryOf_delivered stored _ _)
  rw [written]
  by_cases wanted : Reply.isDeliverableTo before accountId (ids.getD []) reply = true
  · have isOpen : reply.row.deliveredOn = none :=
      Option.isNone_iff_eq_none.mp (Bool.and_eq_true_iff.mp wanted).2
    rw [if_pos wanted]
    exact iff_of_true wanted ⟨isOpen, rfl⟩
  · rw [if_neg wanted]
    exact iff_of_false wanted (not_written rfl)

end Event

/-- The reply under a number is there all through a run. -/
def Database.KeepsReply (database : Database) (id : Int) (turns : List Turn) : Prop :=
  ∀ earlier, earlier <+: turns → (database.after earlier).replies.has id = true

namespace Database.KeepsReply

variable {id : Int} {earlier later : List Turn}

theorem front (keeps : database.KeepsReply id (earlier ++ later)) :
    database.KeepsReply id earlier := fun first isFirst =>
  keeps first (isFirst.trans (List.prefix_append _ _))

theorem back (keeps : database.KeepsReply id (earlier ++ later)) :
    (database.after earlier).KeepsReply id later := fun first isFirst =>
  database.after_append earlier first ▸
    keeps (earlier ++ first) ((List.prefix_append_right_inj earlier).mpr isFirst)

/-- Replies go only with their accounts. -/
theorem of_not_isDeletion {entry : Entry Reply} {turns : List Turn}
    (stored : entry ∈ database.replies.entries)
    (spared : ∀ turn ∈ turns, ¬turn.request.isDeletion) : database.KeepsReply entry.id turns := by
  induction turns generalizing database entry with
  | nil =>
      intro earlier isFirst
      rw [List.prefix_nil.mp isFirst]
      exact Table.has_iff.mpr ⟨entry, stored, rfl⟩
  | cons turn rest ih =>
      intro earlier isFirst
      rcases List.prefix_cons_iff.mp isFirst with rfl | ⟨others, rfl, goesOn⟩
      · exact Table.has_iff.mpr ⟨entry, stored, rfl⟩
      · obtain ⟨row, isStored, -⟩ := turn.step stored fun deletes =>
          absurd deletes (spared turn (.head _))
        exact ih isStored (fun other later => spared other (.tail _ later)) others goesOn

end Database.KeepsReply

namespace Reply

variable {entry : Entry Reply} {turns : List Turn}

/-- A run goes on with every reply that is there all through it. -/
theorem progress_after (stored : entry ∈ database.replies.entries)
    (counted : entry.row.IsCounted) (keeps : database.KeepsReply entry.id turns) :
    ∃ later, ⟨entry.id, later⟩ ∈ (database.after turns).replies.entries ∧
      entry.row.Progress later ∧ later.IsCounted := by
  induction turns generalizing database entry with
  | nil => exact ⟨entry.row, stored, .refl entry.row, counted⟩
  | cons turn rest ih =>
      have keepsRest : (turn.outcome database).database.KeepsReply entry.id rest :=
        Database.KeepsReply.back (show database.KeepsReply entry.id ([turn] ++ rest) from keeps)
      obtain ⟨row, isStored, step⟩ := turn.step stored fun _ => keepsRest [] List.nil_prefix
      obtain ⟨later, isLater, progress, laterCounted⟩ :=
        ih isStored (step.isCounted counted) keepsRest
      exact ⟨later, isLater, (step.progress counted).trans progress, laterCounted⟩

/-- An event of a run delivers a reply that is there all through the run exactly where it changes
the date, and a date does not go. -/
theorem delivers_iff_of_mem_history {id : Int} (keeps : database.KeepsReply id turns)
    {event : Event} (happened : event ∈ database.history turns) :
    (event.delivers id = true ↔ event.before.deliveryOf id ≠ event.after.deliveryOf id) ∧
      ∀ date, event.before.deliveryOf id = some date → event.after.deliveryOf id = some date := by
  obtain ⟨earlier, later, rfl, found⟩ := Database.before_of_mem_history happened
  have isFirst : earlier <+: earlier ++ event.turn :: later := List.prefix_append _ _
  have isNext : earlier ++ [event.turn] <+: earlier ++ event.turn :: later :=
    List.prefix_append_right_inj earlier |>.mpr (List.cons_prefix_cons.mpr ⟨rfl, List.nil_prefix⟩)
  have stays : event.after.replies.has id = true := by
    have there := keeps _ isNext
    rw [Database.after_append, ← found] at there
    exact there
  obtain ⟨held, stored, rfl⟩ := Table.has_iff.mp (found ▸ keeps _ isFirst)
  obtain ⟨row, isRow, step⟩ := event.turn.step stored fun _ => stays
  have old : event.before.deliveryOf held.id = held.row.deliveredOn :=
    Database.deliveryOf_eq stored
  have new : event.after.deliveryOf held.id = row.deliveredOn := Database.deliveryOf_eq isRow
  rw [Event.delivers_iff stored stays, old, new]
  refine ⟨?_, fun date isDate => step.delivered_mono isDate⟩
  cases isDate : held.row.deliveredOn with
  | none => simp [Option.isSome_iff_ne_none, ne_comm]
  | some date => simp [step.delivered_mono isDate]

/-- The dates of a reply that is there all through a run count its deliveries. -/
theorem length_deliveryOf_after {id : Int} (keeps : database.KeepsReply id turns) :
    ((database.after turns).deliveryOf id).toList.length =
      (database.deliveryOf id).toList.length +
        (database.history turns).countP (·.delivers id) := by
  -- There is no date or one, and it is a delivery that makes one of none.
  let dates (database : Database) : Nat := (database.deliveryOf id).toList.length
  refine Database.countP_history dates fun event happened => ?_
  obtain ⟨writes, stays⟩ := delivers_iff_of_mem_history keeps happened
  simp only [dates]
  cases isBefore : event.before.deliveryOf id with
  | some date =>
      have kept := stays date isBefore
      simp only [isBefore, kept, ne_eq, not_true_eq_false, iff_false] at writes
      simp [kept, writes]
  | none =>
      cases isAfter : event.after.deliveryOf id with
      | none =>
          simp only [isBefore, isAfter, ne_eq, not_true_eq_false, iff_false] at writes
          simp [writes]
      | some date =>
          have delivers := writes.mpr (by simp [isBefore, isAfter])
          simp [delivers]

/-- A limit brings no answers and leaves them in order. -/
theorem limited_sublist {α : Type} (limit : Option Int) (answers : List α) :
    (limited limit answers).Sublist answers := by
  cases limit with
  | none => exact List.Sublist.refl _
  | some count =>
      simp only [limited]
      split
      · exact List.Sublist.refl _
      · exact List.take_sublist _ _

/-- What is handed out for delivery comes from the queue, and the tables behind it are there. -/
theorem queued_of_pending {limit : Option Int} {draws : Draws} {replies : List (Entry Reply)}
    (answered : ((pending limit).perform context database draws).answer = .ok replies) :
    database.missing? [.replies, .accounts] = none ∧
      replies ⊆ queue database context.clock context.settings.deliveryAttempts := by
  have ends : (pending limit).Ends context { saved := database, current := database, draws }
      (fun replies _ => database.missing? [.replies, .accounts] = none ∧
        replies ⊆ queue database context.clock context.settings.deliveryAttempts)
      (fun _ _ => True) := by
    simp only [pending, ends_bind, ends_read, ends_require, ends_fits, ends_database, ends_pure,
      implies_true, true_and]
    exact fun present _ => ⟨present, (limited_sublist _ _).subset⟩
  obtain ⟨_, queued, _⟩ := ends.of_answer answered
  exact queued

/-- The queue holds replies that wait, of accounts that can be notified. -/
theorem mem_queue {clock : WallTime} {attemptLimit : Int} {reply : Entry Reply} :
    reply ∈ queue database clock attemptLimit ↔
      reply ∈ database.replies.entries ∧ reply.row.isWaiting attemptLimit = true ∧
        (database.accounts.entries.any fun account =>
          account.id = reply.row.account && account.row.isNotifiable clock) = true := by
  simp only [queue, List.mem_mergeSort, Table.select, List.mem_filter, Bool.and_eq_true]

/-- What is handed out for delivery is stored and waits. -/
theorem isWaiting_of_pending {limit : Option Int} {draws : Draws} {replies : List (Entry Reply)}
    (answered : ((pending limit).perform context database draws).answer = .ok replies)
    {reply : Entry Reply} (isOne : reply ∈ replies) :
    reply ∈ database.replies.entries ∧
      reply.row.isWaiting context.settings.deliveryAttempts = true := by
  obtain ⟨stored, waiting, -⟩ := mem_queue.mp ((queued_of_pending answered).2 isOne)
  exact ⟨stored, waiting⟩

/-- Whether a reply was delivered, or was tried as often as the settings allow. -/
def IsDone (context : Context) (row : Reply) : Prop :=
  row.deliveredOn ≠ none ∨
    ∃ count, row.attempts = some count ∧ context.settings.deliveryAttempts ≤ count

/-- A reply that is done stays done. -/
theorem Progress.isDone {row later : Reply} (progress : row.Progress later)
    (done : row.IsDone context) : later.IsDone context := by
  rcases done with delivered | ⟨count, isCount, reached⟩
  · obtain ⟨date, isDate⟩ := Option.ne_none_iff_exists'.mp delivered
    exact .inl (progress.delivered date isDate ▸ Option.some_ne_none date)
  · have grows := progress.attempts
    rw [isCount] at grows
    cases isMore : later.attempts with
    | none =>
        rw [isMore] at grows
        cases grows
    | some more =>
        rw [isMore] at grows
        cases grows with
        | some isLess => exact .inr ⟨more, isMore, Int.le_trans reached isLess⟩

/-- A reply that is done does not wait. -/
theorem IsDone.not_isWaiting {row : Reply} (done : row.IsDone context) :
    ¬row.isWaiting context.settings.deliveryAttempts = true := by
  simp only [isWaiting, isUndelivered, Bool.and_eq_true, Option.isNone_iff_eq_none,
    Option.any_eq_true, decide_eq_true_eq]
  rintro ⟨⟨isOpen, -⟩, count, isCount, below⟩
  rcases done with delivered | ⟨reached, isReached, bound⟩
  · exact delivered isOpen
  · rw [isCount] at isReached
    cases isReached
    omega

/-- While a reply is there, at most one call of a run delivers it: a call for this reply that
answers so, or a call for many replies that counts it. Its date is written by this call alone and
stays, and its attempts only grow. Once it is delivered, or was tried as often as the limit says,
it is not handed out any more. -/
theorem delivered_once {database : Database} {entry : Entry Reply} {turns : List Turn}
    (stored : entry ∈ database.replies.entries) (counted : entry.row.IsCounted)
    (keeps : database.KeepsReply entry.id turns) :
    (database.history turns).countP (·.delivers entry.id) ≤ 1 ∧
    (∀ event ∈ database.history turns, event.delivers entry.id = true ↔
      event.before.deliveryOf entry.id ≠ event.after.deliveryOf entry.id) ∧
    (∀ accountId ids date context draws before count,
      ((markDeliveredFor accountId ids date).perform context before draws).answer = .ok count →
      count = before.replies.count fun reply =>
        Event.delivers reply.id ⟨⟨.deliverReplies accountId ids date, context, draws⟩, before⟩) ∧
    ∀ earlier later, earlier ++ later <+: turns →
      ∃ row further, ⟨entry.id, row⟩ ∈ (database.after earlier).replies.entries ∧
        ⟨entry.id, further⟩ ∈ (database.after (earlier ++ later)).replies.entries ∧
        row.Progress further ∧
        ∀ context draws limit replies, row.IsDone context →
          ((pending limit).perform context (database.after (earlier ++ later)) draws).answer =
            .ok replies →
          ∀ reply ∈ replies, reply.id ≠ entry.id := by
  refine ⟨?_, fun event happened => (delivers_iff_of_mem_history keeps happened).1,
    fun _ _ _ _ _ _ _ answered => Event.count_delivers answered, ?_⟩
  · have counts := length_deliveryOf_after keeps
    have once : ((database.after turns).deliveryOf entry.id).toList.length ≤ 1 :=
      Option.length_toList_le
    omega
  · rintro earlier later ⟨rest, rfl⟩
    have keepsBoth := Database.KeepsReply.front keeps
    obtain ⟨row, isRow, -, rowCounted⟩ := progress_after stored counted keepsBoth.front
    obtain ⟨further, isFurther, progress, -⟩ := progress_after isRow rowCounted keepsBoth.back
    rw [← Database.after_append] at isFurther
    refine ⟨row, further, isRow, isFurther, progress, ?_⟩
    rintro context draws limit replies done answered reply isOne same
    obtain ⟨isReply, waiting⟩ := isWaiting_of_pending answered isOne
    obtain rfl := Table.eq_of_id_eq _ isReply isFurther same
    exact (progress.isDone done).not_isWaiting waiting

/-- A reply is tried once and delivered once, although two calls try to. -/
theorem delivered_once_twice :
    let database := (Database.atRevision .invites ⟨⟨0⟩, true⟩).after <|
      [.upsertAccount (some "a") (some (Moment.utc ⟨60000000⟩)),
        .resolveThread (some "s") (some "b") (some 1),
        .resolveDescriptor (some 1) (some 2) (some 0),
        .resolveDescriptor (some 1) (some 3) (some 0),
        .recordReply (some 1) (some 2) (some 1)].map fun request =>
          { request, context := { clock := ⟨0⟩ } }
    let turns : List Turn :=
      [.countAttempt (some 1), .deliverReply (some 1) none,
        .deliverReplies (some "a") (some [some 1, some 1]) none].map fun request =>
          { request, context := { clock := ⟨7⟩ } }
    let entry : Entry Reply :=
      ⟨1, { account := 1, descriptor := 2, replyTo := 1, createdOn := Time.Stamp.ofClock ⟨0⟩ }⟩
    entry ∈ database.replies.entries ∧ entry.row.IsCounted ∧
      database.KeepsReply entry.id turns ∧
      (database.history turns).countP (·.delivers entry.id) ≤ 1 ∧
      (database.after turns).deliveryOf entry.id = some ⟨7⟩ := by
  intro database turns entry
  have stored : entry ∈ database.replies.entries := by decide +kernel
  have reached : database.Reached := (Database.Reached.founded .invites ⟨⟨0⟩, true⟩).after _
  have counted : entry.row.IsCounted := reached.isCounted entry stored
  have keeps : database.KeepsReply entry.id turns := .of_not_isDeletion stored (by
    simp [turns, Request.isDeletion])
  exact ⟨stored, counted, keeps, (delivered_once stored counted keeps).1, by decide +kernel⟩

end Reply

end Lookout
