import Lookout.Proofs.Queries
import Mathlib.Data.List.Sort

/-!
# The queue for delivery

What is handed out for delivery is the front of one list: every reply that is due, once, by its
time of creation and then by its number. Replies are stamped by the clock of the turn that records
them, so the order is not that of their numbers where the clock went backwards.
-/

namespace Lookout

open Operation Store
open Time (Moment Stamp WallTime)

variable {context : Context} {database : Database} {draws : Draws}

namespace Time.Stamp

/-- Where a stamp stands among all stamps. -/
def rank (stamp : Stamp) : Nat :=
  2 * stamp.wall.micros + stamp.written.toNat

theorem before_iff {left right : Stamp} : left.before right = true ↔ left.rank < right.rank := by
  obtain ⟨⟨leftMicros⟩, leftWritten⟩ := left
  obtain ⟨⟨rightMicros⟩, rightWritten⟩ := right
  have isEarlier : (⟨leftMicros⟩ : WallTime) < ⟨rightMicros⟩ ↔ leftMicros < rightMicros := Iff.rfl
  simp only [before, rank, isEarlier, WallTime.mk.injEq, Bool.or_eq_true, Bool.and_eq_true,
    decide_eq_true_eq]
  cases leftWritten <;> cases rightWritten <;> simp <;> omega

theorem eq_iff {left right : Stamp} : left = right ↔ left.rank = right.rank := by
  obtain ⟨⟨leftMicros⟩, leftWritten⟩ := left
  obtain ⟨⟨rightMicros⟩, rightWritten⟩ := right
  simp only [rank, mk.injEq, WallTime.mk.injEq]
  cases leftWritten <;> cases rightWritten <;> simp <;> omega

end Time.Stamp

namespace Reply

/-- A reply is due: it was not delivered, not deleted and not tried as often as the settings
allow, and its account can be notified. -/
structure IsDue (context : Context) (database : Database) (reply : Reply) : Prop where
  undelivered : reply.deliveredOn = none
  undeleted : reply.deletedOn = none
  untired : ∃ attempts, reply.attempts = some attempts ∧
    attempts < context.settings.deliveryAttempts
  owned : ∃ owner, ⟨reply.account, owner⟩ ∈ database.accounts.entries ∧ owner.deletedOn = none ∧
    ∃ validUntil, owner.validUntil = some validUntil ∧ context.clock < validUntil

/-- A reply comes before another one: it is older, or as old and has the smaller number. -/
def ComesBefore (left right : Entry Reply) : Prop :=
  left.row.createdOn.wall < right.row.createdOn.wall ∨
    left.row.createdOn.wall = right.row.createdOn.wall ∧ left.id < right.id

/-- A list is the queue for delivery: it holds the replies that are due, one after the other. -/
structure IsQueue (context : Context) (database : Database) (replies : List (Entry Reply)) :
    Prop where
  mem_iff : ∀ reply, reply ∈ replies ↔
    reply ∈ database.replies.entries ∧ reply.row.IsDue context database
  ordered : replies.Pairwise ComesBefore

theorem not_comesBefore_self (reply : Entry Reply) : ¬ComesBefore reply reply := by
  rintro (earlier | ⟨-, below⟩)
  · exact Nat.lt_irrefl _ earlier
  · exact Int.lt_irrefl _ below

theorem ComesBefore.trans {first second third : Entry Reply} (left : ComesBefore first second)
    (right : ComesBefore second third) : ComesBefore first third := by
  rcases left with earlier | ⟨same, below⟩
  · rcases right with later | ⟨same, -⟩
    · exact .inl (Nat.lt_trans earlier later)
    · exact .inl (same ▸ earlier)
  · rcases right with later | ⟨again, above⟩
    · exact .inl (same ▸ later)
    · exact .inr ⟨same.trans again, Int.lt_trans below above⟩

/-- There is only one queue. -/
theorem IsQueue.unique {first second : List (Entry Reply)} (left : IsQueue context database first)
    (right : IsQueue context database second) : first = second := by
  have antisymm : Std.Antisymm ComesBefore :=
    ⟨fun _ _ below above => absurd (below.trans above) (not_comesBefore_self _)⟩
  have irrefl : Std.Irrefl ComesBefore := ⟨not_comesBefore_self⟩
  exact left.ordered.eq_of_mem_iff right.ordered fun reply =>
    (left.mem_iff reply).trans (right.mem_iff reply).symm

/-- What is due waits for an account that queries count. -/
theorem isDue_iff {reply : Reply} : reply.IsDue context database ↔
    reply.isWaiting context.settings.deliveryAttempts = true ∧
      database.counts context.clock reply.account = true := by
  simp only [isWaiting, isUndelivered, Bool.and_eq_true, Option.isNone_iff_eq_none,
    Option.any_eq_true, decide_eq_true_eq, Database.counts_iff_exists]
  constructor
  · rintro ⟨undelivered, undeleted, untired, owned⟩
    exact ⟨⟨⟨undelivered, undeleted⟩, untired⟩, owned⟩
  · rintro ⟨⟨⟨undelivered, undeleted⟩, untired⟩, owned⟩
    exact ⟨undelivered, undeleted, untired, owned⟩

instance (context : Context) (database : Database) (reply : Reply) :
    Decidable (reply.IsDue context database) :=
  decidable_of_iff _ isDue_iff.symm

/-- The queue is a sorting of the replies that are due. -/
theorem queue_perm : (queue database context.clock context.settings.deliveryAttempts).Perm
    (database.replies.entries.filter fun entry => entry.row.IsDue context database) := by
  refine (List.mergeSort_perm _ _).trans (.of_eq (List.filter_congr fun entry _ => ?_))
  rw [Bool.eq_iff_iff, decide_eq_true_iff, isDue_iff, Bool.and_eq_true]
  rfl

theorem mem_queue_iff {reply : Entry Reply} :
    reply ∈ queue database context.clock context.settings.deliveryAttempts ↔
      reply ∈ database.replies.entries ∧ reply.row.IsDue context database := by
  rw [queue_perm.mem_iff, List.mem_filter, decide_eq_true_iff]

/-- A queue lists what is due in the table, and nothing else. -/
theorem isQueue_iff {replies : List (Entry Reply)} : IsQueue context database replies ↔
    (∀ reply ∈ replies, reply ∈ database.replies.entries ∧ reply.row.IsDue context database) ∧
      (∀ reply ∈ database.replies.entries, reply.row.IsDue context database → reply ∈ replies) ∧
      replies.Pairwise ComesBefore := by
  constructor
  · rintro ⟨mem_iff, ordered⟩
    exact ⟨fun reply => (mem_iff reply).mp, fun reply stored isDue =>
      (mem_iff reply).mpr ⟨stored, isDue⟩, ordered⟩
  · rintro ⟨listed, complete, ordered⟩
    exact ⟨fun reply => ⟨listed reply, fun due => complete reply due.1 due.2⟩, ordered⟩

instance : DecidableRel ComesBefore := fun _ _ => inferInstanceAs (Decidable (_ ∨ _ ∧ _))

instance (context : Context) (database : Database) (replies : List (Entry Reply)) :
    Decidable (IsQueue context database replies) :=
  decidable_of_iff _ isQueue_iff.symm

/-- The order of the queue compares ranks and then numbers. -/
theorem queueLe_iff {left right : Entry Reply} :
    queueLe left right = true ↔ left.row.createdOn.rank < right.row.createdOn.rank ∨
      left.row.createdOn.rank = right.row.createdOn.rank ∧ left.id ≤ right.id := by
  simp only [queueLe, Bool.or_eq_true, Bool.and_eq_true, decide_eq_true_eq, Stamp.before_iff,
    Stamp.eq_iff]

/-- The queue is sorted, and no reply is in it twice. -/
theorem pairwise_queue (clock : WallTime) (attemptLimit : Int) :
    (queue database clock attemptLimit).Pairwise fun left right =>
      queueLe left right = true ∧ left.id ≠ right.id := by
  refine List.Pairwise.and (List.pairwise_mergeSort ?_ ?_ _) ?_
  · intro first second third
    simp only [queueLe_iff]
    omega
  · intro first second
    simp only [queueLe_iff, Bool.or_eq_true]
    omega
  · have apart := database.replies.ascending.imp Int.ne_of_lt
    exact (List.mergeSort_perm _ queueLe).symm.pairwise (apart.filter _) Ne.symm

/-- Where all stamps are the clock's, what is sorted is the queue. -/
theorem isQueue_queue
    (stamped : ∀ entry ∈ database.replies.entries, entry.row.createdOn.written = false) :
    IsQueue context database
      (queue database context.clock context.settings.deliveryAttempts) := by
  refine ⟨fun _ => mem_queue_iff, ?_⟩
  have unwritten : ∀ entry ∈ queue database context.clock context.settings.deliveryAttempts,
      entry.row.createdOn.written = false := fun entry isQueued =>
    stamped entry (mem_queue_iff.mp isQueued).1
  refine (pairwise_queue _ _).imp_of_mem fun {left right} isLeft isRight related => ?_
  obtain ⟨le, apart⟩ := related
  simp only [queueLe_iff, Stamp.rank, unwritten left isLeft, unwritten right isRight] at le
  rcases le with earlier | ⟨same, below⟩
  · exact .inl (Nat.lt_of_mul_lt_mul_left (Nat.lt_of_add_lt_add_right earlier))
  · refine .inr ⟨?_, Int.lt_iff_le_and_ne.mpr ⟨below, apart⟩⟩
    have sameMicros : left.row.createdOn.wall.micros = right.row.createdOn.wall.micros := by omega
    exact congrArg WallTime.mk sameMicros

/-- What is handed out is the front of the queue, where the numbers can be stored. -/
theorem answer_pending (newest : database.IsNewest) (limit : Option Int) :
    ((pending limit).perform context database draws).answer =
      if isStorable context.settings.deliveryAttempts && limit.all isStorable then
        .ok (limited limit (queue database context.clock context.settings.deliveryAttempts))
      else .error (.store .numberTooLarge) := by
  refine Ends.answer_perform _ ?_
  simp only [pending, ends_bind, ends_read, ends_require, ends_fits, ends_database, ends_pure,
    newest.missing?_eq_none, reduceCtorEq, false_implies, implies_true, true_and, forall_const,
    List.all_cons, List.all_nil, Option.all_some, Bool.and_true, List.forall_mem_cons]
  refine ⟨fun large => by rw [large, if_neg Bool.false_ne_true], fun storable => ?_⟩
  rw [if_pos (Bool.and_eq_true_iff.mpr ⟨storable.1, storable.2.1⟩)]

/-- A smaller limit cuts off earlier. -/
theorem limited_isPrefix {α : Type} {fewer more : Int} (notNegative : 0 ≤ fewer)
    (le : fewer ≤ more) (answers : List α) :
    limited (some fewer) answers <+: limited (some more) answers := by
  simp only [limited]
  rw [if_neg (by omega), if_neg (by omega)]
  exact List.take_prefix_take_left (Int.toNat_le_toNat le)

end Reply

/-- In every reachable database replies are stamped by the clocks of the turns that recorded
them. -/
theorem Database.Reached.isStamped (reached : database.Reached) :
    ∀ entry ∈ database.replies.entries, entry.row.createdOn.written = false := by
  have stable : Reply.IsStable fun row => row.createdOn.written = false :=
    { recorded := fun _ _ _ _ => rfl
      attempted := fun _ unwritten => unwritten
      delivered := fun _ _ unwritten => unwritten }
  exact reached.forall_replies stable

namespace Reply

/-- In a reachable database of the newest revision there is one queue, and what is handed out is
its front, as long as the limit says: all of it where the limit is negative. So a smaller limit
cuts the same answer off earlier. Where the number of attempts that the settings allow cannot be
stored, nothing is answered. -/
theorem pending_in_order (reached : database.Reached)
    (newest : database.position = some .invites) (context : Context) (draws : Draws) :
    ∃ waiting, IsQueue context database waiting ∧
      (∀ others, IsQueue context database others → others = waiting) ∧
      (isStorable context.settings.deliveryAttempts = true →
        (∀ limit, isStorable limit = true →
          ((pending (some limit)).perform context database draws).answer =
            .ok (if limit < 0 then waiting else waiting.take limit.toNat)) ∧
        ∀ fewer more, 0 ≤ fewer → fewer ≤ more → isStorable more = true →
          ∃ first all,
            ((pending (some fewer)).perform context database draws).answer = .ok first ∧
            ((pending (some more)).perform context database draws).answer = .ok all ∧
            first <+: all) ∧
      (isStorable context.settings.deliveryAttempts = false → ∀ limit,
        ((pending (some limit)).perform context database draws).answer =
          .error (.store .numberTooLarge)) := by
  have isNewest := reached.isNewest newest
  have isQueue : IsQueue context database _ := isQueue_queue reached.isStamped
  have answers (allowed : isStorable context.settings.deliveryAttempts = true) (limit : Int)
      (storable : isStorable limit = true) :
      ((pending (some limit)).perform context database draws).answer = .ok (limited (some limit)
        (queue database context.clock context.settings.deliveryAttempts)) := by
    rw [answer_pending isNewest, Option.all_some, allowed, storable, Bool.and_self, if_pos rfl]
  refine ⟨_, isQueue, fun others isOther => isOther.unique isQueue, fun allowed => ?_, ?_⟩
  · refine ⟨answers allowed, fun fewer more notNegative le storable => ?_⟩
    have fewerStorable : isStorable fewer = true := by
      simp only [isStorable, Bool.and_eq_true, decide_eq_true_eq] at storable ⊢
      exact ⟨by unfold Cell.maxInteger; omega, Int.le_trans le storable.2⟩
    exact ⟨_, _, answers allowed fewer fewerStorable, answers allowed more storable,
      limited_isPrefix notNegative le _⟩
  · intro beyond limit
    rw [answer_pending isNewest, beyond, Bool.false_and, if_neg Bool.false_ne_true]

/-- Where the clock went back a minute between two recordings, the later ones come first, in the
order of their numbers. -/
theorem pending_in_order_backwards :
    let database := (Database.atRevision .invites ⟨⟨0⟩, true⟩).after <|
      (([.upsertAccount (some "a") (some (Moment.utc ⟨600000000⟩)),
        .resolveThread (some "s") (some "b") (some 1),
        .resolveDescriptor (some 1) (some 2) (some 0),
        .resolveDescriptor (some 1) (some 3) (some 0),
        .recordReply (some 1) (some 2) (some 1)] : List Request).map fun request =>
          { request, context := { clock := ⟨90000000⟩ } }) ++
      ([.recordReply (some 1) (some 1) (some 2),
        .recordReply (some 1) (some 1) (some 1)] : List Request).map fun request =>
          { request, context := { clock := ⟨30000000⟩ } }
    let context : Context := { clock := ⟨90000000⟩ }
    let waiting := ([2, 3, 1] : List Int).filterMap database.replies.get?
    database.Reached ∧ database.position = some .invites ∧ IsQueue context database waiting ∧
      ((pending (some 2)).perform context database {}).answer = .ok (waiting.take 2) := by
  intro database context waiting
  have reached : database.Reached := (Database.Reached.founded .invites ⟨⟨0⟩, true⟩).after _
  have newest : database.position = some .invites := by decide +kernel
  have isQueue : IsQueue context database waiting := by decide +kernel
  obtain ⟨_, -, unique, answers, -⟩ := pending_in_order reached newest context {}
  have first := (answers (by decide)).1 2 (by decide)
  rw [← unique waiting isQueue, if_neg (by decide)] at first
  exact ⟨reached, newest, isQueue, first⟩

/-- A limit of attempts that cannot be stored keeps a reply back that is due. -/
theorem pending_refused :
    let database := (Database.atRevision .invites ⟨⟨0⟩, true⟩).after <|
      [.upsertAccount (some "a") (some (Moment.utc ⟨600000000⟩)),
        .resolveThread (some "s") (some "b") (some 1),
        .resolveDescriptor (some 1) (some 2) (some 0),
        .resolveDescriptor (some 1) (some 3) (some 0),
        .recordReply (some 1) (some 2) (some 1)].map fun request =>
          { request, context := { clock := ⟨0⟩ } }
    let context : Context :=
      { clock := ⟨0⟩, settings := { deliveryAttempts := Cell.maxInteger + 1 } }
    let waiting := ([1] : List Int).filterMap database.replies.get?
    database.Reached ∧ database.position = some .invites ∧ IsQueue context database waiting ∧
      ((pending (some 10)).perform context database {}).answer ≠ .ok (waiting.take 10) := by
  intro database context waiting
  have reached : database.Reached := (Database.Reached.founded .invites ⟨⟨0⟩, true⟩).after _
  have newest : database.position = some .invites := by decide +kernel
  have isQueue : IsQueue context database waiting := by decide +kernel
  refine ⟨reached, newest, isQueue, ?_⟩
  rw [answer_pending (reached.isNewest newest), if_neg (by decide)]
  exact nofun

end Reply

end Lookout
