import Lookout.Account.Registry

/-!
# Replies

A reply to a watched post is recorded once for each account and handed out for delivery,
the oldest first, until it is delivered or was tried too often. The date of delivery is
written once.
-/

namespace Lookout.Reply

open Operation Store
open Time (Moment WallTime)

/-- What a reply is known by. -/
def naturalKey : List Schema.Column := [.ownerAccountId, .ownerDescriptorId, .replyToDescriptorId]

/-- Add a reply if it is new, without a commit. The answer is its number, and whether it
is new. -/
def insert (account descriptor replyTo : Option Int) : Operation (Int × Bool) :=
  orFail (.noReplyParent account descriptor replyTo) do
    prepareInsertion .replies (some naturalKey)
    fits [account, descriptor, replyTo]
    let account ← needed .replies .ownerAccountId account
    let descriptor ← needed .replies .ownerDescriptorId descriptor
    let replyTo ← needed .replies .replyToDescriptorId replyTo
    addUnlessAlike naturalKey { account, descriptor, replyTo, createdOn := ← stamp : Reply }

/-- Record that one post answered another one that an account watches. -/
def record (account descriptor replyTo : Option Int) : Operation Int := do
  let (id, _) ← insert account descriptor replyTo
  commit
  return id

/-- An account, a post and the post that it answered, as they are given: a list of three. -/
def edge : Value → Operation (Option Int × Option Int × Option Int)
  | .list [account, descriptor, replyTo] =>
      return (account.integer?, descriptor.integer?, replyTo.integer?)
  | .list values =>
      throw (if values.length < 3 then .tooFewElements 3 values.length else .tooManyElements 3)
  | value => throw (.noElements value.kindName)

/-- Add replies one after the other, counting the new ones. -/
def insertAll (count : Nat) : List Value → Operation Nat
  | [] => return count
  | value :: rest => do
      let (account, descriptor, replyTo) ← edge value
      let (_, isNew) ← insert account descriptor replyTo
      insertAll (if isNew then count + 1 else count) rest

/-- Record many replies together; the answer says how many were new. -/
def recordAll (edges : Value) : Operation Nat := do
  match edges with
  | .list edges =>
      let count ← insertAll 0 edges
      commit
      log .info .replies s!"record_replies() stored {count} new post replies"
      return count
  | value => throw (.notList value.kindName)

/-- One failed delivery more. From two to the power of 63 on, which the store keeps as a
double, the count stands still. -/
def countOneMore (attempts : Int) : Int :=
  min (attempts + 1) (Cell.maxInteger + 1)

/-- Count a failed delivery for each of some replies. The answer says how many of them
exist. The list has no more members than the store can bind in one statement. -/
def markAttempts (ids : Option (List (Option Int))) : Operation Nat := do
  match ids with
  | none | some [] => return 0
  | some ids =>
      require [.replies]
      fits ids
      let count ← updateWhere (fun (entry : Entry Reply) => ids.contains (some entry.id))
        fun row => { row with attempts := row.attempts.map countOneMore }
      commit
      log .info .replies
        s!"mark_notification_attempts() Got {ids.length} reply ids, updated {count}"
      return count

/-- Count a failed delivery of a reply, which must exist. -/
def markAttempt (id : Option Int) : Operation Unit := do
  if (← markAttempts (some [id])) = 0 then throw (.noReply id)

/-- Whether a reply has not been delivered. -/
def isUndelivered (reply : Reply) : Bool :=
  reply.deliveredOn.isNone

/-- Write the date on which a reply was delivered, unless it has one. The answer says
whether it was written. -/
def markDelivered (id : Option Int) (date : Option Moment) : Operation Bool := do
  let date := date.getD (← now)
  require [.replies]
  fits [id]
  let count ← updateWhere
    (fun (entry : Entry Reply) => some entry.id = id && entry.row.isUndelivered)
    fun row => { row with deliveredOn := some date.wall }
  commit
  if 0 < count then return true
  else if (← rows Reply).entries.any fun entry => some entry.id = id then
    log .debug .replies s!"mark_delivered() reply {Failure.shown id} was already delivered"
    return false
  else throw (.noReply id)

/-- Write the date of delivery for an account's own replies among some, where they have
none. The answer says for how many. The list has no more members than the store can bind in
one statement. -/
def markDeliveredFor (accountId : Option String) (ids : Option (List (Option Int)))
    (date : Option Moment) : Operation Nat := do
  match ids with
  | none | some [] => return 0
  | some ids =>
      let date := date.getD (← now)
      require [.replies, .accounts]
      fits ids
      let owners := (← rows Account).select fun entry => some entry.row.accountId = accountId
      let count ← updateWhere
        (fun (entry : Entry Reply) =>
          ids.contains (some entry.id) && (owners.any fun owner => owner.id = entry.row.account) &&
            entry.row.isUndelivered)
        fun row => { row with deliveredOn := some date.wall }
      commit
      if count < ids.length then
        log .info .replies <|
          s!"mark_delivered_for_account() {ids.length - count} of {ids.length} " ++
            "reply ids were skipped (foreign or already delivered)"
      return count

/-- Whether a reply waits for delivery: not delivered, not deleted, and not tried too
often. -/
def isWaiting (limit : Int) (reply : Reply) : Bool :=
  reply.isUndelivered && reply.deletedOn.isNone && reply.attempts.any fun attempts => attempts < limit

/-- Whether a reply comes before another one in the queue: by time of creation, then by
number. -/
def queueLe (left right : Entry Reply) : Bool :=
  left.row.createdOn.before right.row.createdOn ||
    (left.row.createdOn = right.row.createdOn && left.id ≤ right.id)

/-- The replies that wait for delivery to an account that can be notified, the oldest
first. -/
def queue (database : Database) (clock : WallTime) (attemptLimit : Int) : List (Entry Reply) :=
  (database.replies.select fun entry =>
    entry.row.isWaiting attemptLimit && database.accounts.entries.any fun account =>
      account.id = entry.row.account && account.row.isNotifiable clock).mergeSort queueLe

/-- The first so many replies that wait for delivery. -/
def pending (limit : Option Int) : Operation (List (Entry Reply)) := do
  let context ← read
  require [.replies, .accounts]
  fits [some context.settings.deliveryAttempts, limit]
  return limited limit (queue (← database) context.clock context.settings.deliveryAttempts)

/-- A reply with the id of its account and the numbers of its two posts. -/
structure Details where
  reply : Entry Reply
  accountId : Option String
  postNo : Option Int
  replyToPostNo : Option Int

/-- The replies of an account. -/
def ofAccount (accountId : Option String) : Operation (List Details) := do
  require [.replies, .accounts]
  let database ← database
  let postNo (descriptor : Int) := (database.descriptors.get? descriptor).map (·.row.postNo)
  let owned := database.replies.select fun entry =>
    database.accounts.entries.any fun account =>
      account.id = entry.row.account && some account.row.accountId = accountId
  return owned.map fun reply =>
    { reply, accountId, postNo := postNo reply.row.descriptor
      replyToPostNo := postNo reply.row.replyTo }

end Lookout.Reply
