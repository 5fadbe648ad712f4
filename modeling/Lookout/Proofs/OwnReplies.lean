import Lookout.Proofs.Draining
import Mathlib.Data.List.Dedup

/-!
# Own replies

An account that marks some replies as delivered does what marking each of its own replies among them
does, one after the other. Numbers that come again, that are in use by nothing or that belong to
somebody else add nothing, and the order does not matter.
-/

namespace Lookout.Reply

open Operation Store
open Time (Moment)

variable {context : Context} {database : Database} {draws : Draws} {accountId : Option String}
  {ids : List Int}

/-- Whether a reply belongs to the account with an id. -/
def isOwnedBy (database : Database) (accountId : Option String) (entry : Entry Reply) : Bool :=
  (database.accounts.select (Account.isNamed accountId)).any fun owner =>
    owner.id = entry.row.account

/-- Whether a number is that of a reply of a kind. -/
def isIdOf (database : Database) (wanted : Entry Reply → Bool) (id : Int) : Bool :=
  (database.replies.select wanted).any fun reply => reply.id = id

/-- Mark replies as delivered, one after the other. The answer says how many of these calls have
written the date. -/
def markEach (context : Context) (draws : Draws) (date : Option Moment) :
    List Int → Database → Except Failure (Nat × Database)
  | [], database => return (0, database)
  | id :: rest, database => do
      let (isWritten, middle) ←
        ((markDelivered (some id) date).perform context database draws).result
      let (count, after) ← markEach context draws date rest middle
      return (count + if isWritten then 1 else 0, after)

/-! ### One after the other -/

/-- Whether a row is among some replies and has not been delivered. -/
def isOpenAmong (ids : List Int) (entry : Entry Reply) : Bool :=
  ids.contains entry.id && entry.row.isUndelivered

/-- To deliver one reply and then others is to deliver them together. -/
theorem delivered_cons (id : Int) (rest : List Int) (date : Moment) :
    delivered (delivered database (isDeliverable (some id)) date) (isOpenAmong rest) date =
      delivered database (isOpenAmong (id :: rest)) date := by
  simp only [delivered, Database.updated_eq_amended]
  refine (Database.amended_amended _ _).trans (Database.amended_congr fun held _ => ?_)
  have isNew : isUndelivered { held.row with deliveredOn := some date.wall } = false := rfl
  by_cases isOpen : held.row.isUndelivered = true
  · by_cases isIt : held.id = id
    · simp [isDeliverable, isOpenAmong, isOpen, isIt, isNew]
    · simp [isDeliverable, isOpenAmong, isOpen, isIt]
  · simp [isDeliverable, isOpenAmong, isOpen]

/-- A delivery leaves the other replies as they are. -/
theorem mem_delivered {entry : Entry Reply} (stored : entry ∈ database.replies.entries) {id : Int}
    (other : entry.id ≠ id) (date : Moment) :
    entry ∈ (delivered database (isDeliverable (some id)) date).replies.entries := by
  have isKept := Database.mem_updated stored (isDeliverable (some id)) fun (row : Reply) =>
    { row with deliveredOn := some date.wall }
  rwa [if_neg (by simp [isDeliverable, other])] at isKept

/-- So their numbers are those of replies of the same kinds. -/
theorem isIdOf_delivered {entry : Entry Reply} (stored : entry ∈ database.replies.entries)
    {id : Int} (other : entry.id ≠ id) (wanted : Entry Reply → Bool) (date : Moment) :
    isIdOf (delivered database (isDeliverable (some id)) date) wanted entry.id =
      isIdOf database wanted entry.id := by
  rw [isIdOf, isIdOf, Table.any_select (mem_delivered stored other date), Table.any_select stored]

/-- Marking stored replies that are all different is marking them together. -/
theorem markEach_eq (newest : database.IsNewest) (distinct : ids.Nodup)
    (known : ∀ id ∈ ids, ∃ entry ∈ database.replies.entries, entry.id = id)
    (storable : ∀ id ∈ ids, isStorable id = true) (date : Option Moment) (context : Context)
    (draws : Draws) :
    markEach context draws date ids database =
      .ok (ids.countP (isIdOf database fun entry => entry.row.isUndelivered),
        delivered database (isOpenAmong ids) (context.moment date)) := by
  induction ids generalizing database with
  | nil =>
      have same : delivered database (isOpenAmong []) (context.moment date) = database :=
        Database.updated_of_count _ _ _ (by simp [Table.count, isOpenAmong])
      rw [same]
      rfl
  | cons id rest ih =>
      obtain ⟨apart, restDistinct⟩ := List.nodup_cons.mp distinct
      obtain ⟨⟨entry, stored, rfl⟩, others⟩ := List.forall_mem_cons.mp known
      obtain ⟨fits, restFit⟩ := List.forall_mem_cons.mp storable
      have told := result_markDelivered newest stored fits date context draws
      have newestMiddle : (delivered database (isDeliverable (some entry.id))
          (context.moment date)).IsNewest := by
        rw [← (Outcome.result_eq_ok_iff.mp told).2]
        exact newest.outcome ⟨.deliverReply (some entry.id) date, context, draws⟩
      have different : ∀ id ∈ rest, id ≠ entry.id := fun id isOne same => apart (same ▸ isOne)
      have restKnown : ∀ id ∈ rest, ∃ other ∈ (delivered database (isDeliverable (some entry.id))
          (context.moment date)).replies.entries, other.id = id := by
        intro id isOne
        obtain ⟨other, isStored, rfl⟩ := others id isOne
        exact ⟨other, mem_delivered isStored (different _ isOne) _, rfl⟩
      -- The other replies are as they were, so that as many of them are open.
      have same : rest.countP (isIdOf (delivered database (isDeliverable (some entry.id))
            (context.moment date)) fun entry => entry.row.isUndelivered) =
          rest.countP (isIdOf database fun entry => entry.row.isUndelivered) := by
        apply List.countP_congr
        intro id isOne
        obtain ⟨other, isStored, rfl⟩ := others id isOne
        rw [isIdOf_delivered isStored (different _ isOne)]
      have done := ih newestMiddle restDistinct restKnown restFit
      have isFirst : isIdOf database (fun entry => entry.row.isUndelivered) entry.id =
        entry.row.isUndelivered := Table.any_select stored
      rw [markEach, told]
      change (markEach context draws date rest _ >>= _) = _
      rw [done, same, delivered_cons, List.countP_cons, isFirst]
      rfl

/-! ### Together -/

/-- An account that marks replies marks those of its own among them that are open. -/
theorem result_markDeliveredFor (newest : database.IsNewest) (accountId : Option String)
    (storable : ∀ id ∈ ids, isStorable id = true) (date : Option Moment) (context : Context)
    (draws : Draws) :
    ((markDeliveredFor accountId (some (ids.map some)) date).perform context database
      draws).result =
      .ok (database.replies.count (isDeliverableTo database accountId (ids.map some)),
        delivered database (isDeliverableTo database accountId (ids.map some))
          (context.moment date)) := by
  apply result_perform_of_ends
  cases ids with
  | nil =>
      have nothing : database.replies.count (isDeliverableTo database accountId []) = 0 := by
        simp [Table.count, isDeliverableTo]
      have same : delivered database (isDeliverableTo database accountId []) (context.moment date) =
          database := Database.updated_of_count _ _ _ nothing
      rw [List.map_nil, nothing, same]
      simp [markDeliveredFor]
  | cons id rest =>
      simp only [List.map_cons, markDeliveredFor, ends_bind, ends_now, ends_require, ends_fits,
        ends_rows, ends_updateWhere, ends_commit, ends_ite, ends_log, ends_pure,
        newest.missing?_eq_none, reduceCtorEq, false_implies, implies_true, true_and, forall_const]
      refine ⟨fun large => ?_, fun _ => ⟨fun _ => rfl, fun _ => rfl⟩⟩
      have fits : ((id :: rest).map some).all (fun number => number.all isStorable) = true := by
        simpa using storable
      rw [← List.map_cons, fits] at large
      cases large

/-- What is done to a kind of rows depends on which rows are of that kind. -/
theorem effect_congr {wanted others : Entry Reply → Bool} {date : Moment}
    (same : ∀ entry ∈ database.replies.entries, wanted entry = others entry) :
    (Except.ok (database.replies.count wanted, delivered database wanted date) :
        Except Failure (Nat × Database)) =
      .ok (database.replies.count others, delivered database others date) := by
  have sameCount : database.replies.count wanted = database.replies.count others :=
    List.countP_congr fun entry stored => by rw [same entry stored]
  have sameLeft : delivered database wanted date = delivered database others date :=
    Database.updated_congr fun entry stored => by rw [same entry stored]
  rw [sameCount, sameLeft]

/-- What an account marks among some replies is what is open among those of them that it owns. -/
theorem isDeliverableTo_eq {own : List Int}
    (isOwn : ∀ id, id ∈ own ↔ id ∈ ids ∧ isIdOf database (isOwnedBy database accountId) id = true)
    {entry : Entry Reply} (stored : entry ∈ database.replies.entries) :
    isDeliverableTo database accountId (ids.map some) entry = isOpenAmong own entry := by
  have owned : isIdOf database (isOwnedBy database accountId) entry.id =
      isOwnedBy database accountId entry := Table.any_select stored
  rw [Bool.eq_iff_iff, isDeliverableTo, isOpenAmong, Bool.and_eq_true, Bool.and_eq_true,
    Bool.and_eq_true, List.contains_iff_mem, List.contains_iff_mem, isOwn, owned]
  simp [isOwnedBy]

/-- So many of some stored replies that are all different are open. -/
theorem count_isOpenAmong (distinct : ids.Nodup)
    (known : ∀ id ∈ ids, ∃ entry ∈ database.replies.entries, entry.id = id) :
    database.replies.count (isOpenAmong ids) =
      ids.countP (isIdOf database fun entry => entry.row.isUndelivered) := by
  rw [Table.count_eq_countP distinct fun entry _ isOpen => by
    simpa using (Bool.and_eq_true_iff.mp isOpen).1]
  refine List.countP_congr fun id isOne => ?_
  obtain ⟨entry, stored, rfl⟩ := known id isOne
  rw [isIdOf, Table.any_select stored, Table.any_select stored]
  simp [isOpenAmong, isOne]

/-- In a reached database of the newest revision, an account that marks some replies as delivered
does what marking each of its own replies among them does, once each and in any order. The request
is answered, and so it is for other lists with the same numbers, with the same answer and the same
effect. -/
theorem delivered_one_by_one (reached : database.Reached)
    (newest : database.position = some .invites) (context : Context) (draws : Draws)
    (accountId : Option String) (storable : ∀ id ∈ ids, isStorable id = true)
    (date : Option Moment) :
    let result (ids : List Int) : Except Failure (Nat × Database) :=
      ((markDeliveredFor accountId (some (ids.map some)) date).perform context database
        draws).result
    (∃ answer, result ids = .ok answer) ∧
    (∀ own : List Int,
      own.Perm (ids.dedup.filter (isIdOf database (isOwnedBy database accountId))) →
        result ids = markEach context draws date own database) ∧
    ∀ others : List Int, (∀ id, id ∈ others ↔ id ∈ ids) → result others = result ids := by
  have isNewest := reached.isNewest newest
  intro result
  have told {ids : List Int} (storable : ∀ id ∈ ids, isStorable id = true) :=
    result_markDeliveredFor isNewest accountId storable date context draws
  refine ⟨⟨_, told storable⟩, ?_, ?_⟩
  · intro own isOwn
    have listed : ∀ id, id ∈ own ↔
        id ∈ ids ∧ isIdOf database (isOwnedBy database accountId) id = true := by
      intro id
      rw [isOwn.mem_iff, List.mem_filter, List.mem_dedup]
    have known : ∀ id ∈ own, ∃ entry ∈ database.replies.entries, entry.id = id := by
      intro id isOne
      obtain ⟨entry, isSelected, isId⟩ := List.any_eq_true.mp ((listed id).mp isOne).2
      exact ⟨entry, (List.mem_filter.mp isSelected).1, of_decide_eq_true isId⟩
    have distinct : own.Nodup := isOwn.nodup_iff.mpr (ids.nodup_dedup.filter _)
    calc result ids
        = .ok (database.replies.count (isOpenAmong own),
            delivered database (isOpenAmong own) (context.moment date)) :=
          (told storable).trans (effect_congr fun entry stored => isDeliverableTo_eq listed stored)
      _ = markEach context draws date own database := by
          have fits : ∀ id ∈ own, isStorable id = true :=
            fun id isOne => storable id ((listed id).mp isOne).1
          rw [count_isOpenAmong distinct known, markEach_eq isNewest distinct known fits]
  · intro others same
    have storableOthers : ∀ id ∈ others, isStorable id = true :=
      fun id isOne => storable id ((same id).mp isOne)
    rw [show result others = _ from told storableOthers, show result ids = _ from told storable]
    apply effect_congr
    intro entry _
    simp [isDeliverableTo, same]

/-- Two accounts are told of replies: one of the first and the third one, the other one of the
second one. -/
def toldThrice : List Turn :=
  [.upsertAccount (some "a") none, .upsertAccount (some "b") none,
    .resolveThread (some "s") (some "b") (some 1), .resolveDescriptor (some 1) (some 2) (some 0),
    .resolveDescriptor (some 1) (some 3) (some 0), .resolveDescriptor (some 1) (some 4) (some 0),
    .recordReply (some 1) (some 2) (some 1), .recordReply (some 2) (some 2) (some 1),
    .recordReply (some 1) (some 3) (some 1)].map fun request =>
      { request, context := { clock := ⟨0⟩ } }

/-- One number comes again, one is that of the other account, and one is in use by nothing. -/
theorem delivered_one_by_one_five :
    let database := (Database.atRevision .invites ⟨⟨0⟩, true⟩).after toldThrice
    let ids : List Int := [3, 2, 1, 3, 9]
    let result := ((markDeliveredFor (some "a") (some (ids.map some)) none).perform
      { clock := ⟨7⟩ } database {}).result
    database.Reached ∧ database.position = some .invites ∧ (∀ id ∈ ids, isStorable id = true) ∧
      result = markEach { clock := ⟨7⟩ } {} none [1, 3] database ∧
      ∃ after, result = .ok (2, after) := by
  intro database ids result
  have reached : database.Reached := (Database.Reached.founded .invites ⟨⟨0⟩, true⟩).after _
  have newest : database.position = some .invites := by decide +kernel
  have storable : ∀ id ∈ ids, isStorable id = true := by decide
  have own : [1, 3].Perm (ids.dedup.filter (isIdOf database (isOwnedBy database (some "a")))) := by
    decide +kernel
  obtain ⟨-, same, -⟩ := delivered_one_by_one reached newest { clock := ⟨7⟩ } {} (some "a")
    storable none
  have told : result = markEach { clock := ⟨7⟩ } {} none [1, 3] database := same [1, 3] own
  have both : [1, 3].countP (isIdOf database fun entry => entry.row.isUndelivered) = 2 := by
    decide +kernel
  have each := markEach_eq (reached.isNewest newest) (show [1, 3].Nodup by decide)
    (by decide +kernel) (by decide) none { clock := ⟨7⟩ } {}
  rw [both] at each
  exact ⟨reached, newest, storable, told, _, told.trans each⟩

end Lookout.Reply
