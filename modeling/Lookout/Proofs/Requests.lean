import Lookout.Account.Identity
import Lookout.Invite
import Lookout.Journal
import Lookout.Reply
import Lookout.Watch

/-!
# Requests

Everything that can be asked of the services, as data: a request holds the arguments of one
operation and knows the type of its answer. A run is a list of turns. Each turn makes one
request in a session of its own, with a clock, settings and a supply of randomness that owe
nothing to the turns before it.
-/

namespace Lookout

open Store
open Time (Moment WallTime)

/-- What can be asked of the services. -/
inductive Request where
  | upsertAccount (accountId : Option String) (validUntil : Option Moment)
  | setExpiry (accountId : Option String) (validUntil : Option Moment)
  | expireAccount (accountId : Option String) (date : Option Moment)
  | deleteAccount (accountId : Option String)
  | findAccount (accountId : Option String) (includeDeleted : Bool)
  | checkAccount (accountId : Option String) (moment : Moment)
  | listBelongings (accountId : Option String)
  | identifyUser (userId : Option String)
  | registerToken (accountId text : Option String) (application kind : Value)
  | listTokens (accountId : Option String)
  | generateInvites (amount : Option Int) (date : Option Moment)
  | acceptInvite (inviteId : Option String) (date : Option Moment)
  | sweepInvites (date : Option Moment)
  | findInvite (inviteId : Option String)
  | appendLine (draft : Journal.Draft)
  | appendLines (drafts : Option (List Journal.Draft))
  | readLines (limit before : Option Int)
  | recordReply (account descriptor replyTo : Option Int)
  | recordReplies (edges : Value)
  | countAttempt (id : Option Int)
  | countAttempts (ids : Option (List (Option Int)))
  | deliverReply (id : Option Int) (date : Option Moment)
  | deliverReplies (accountId : Option String) (ids : Option (List (Option Int)))
      (date : Option Moment)
  | pendingReplies (limit : Option Int)
  | listReplies (accountId : Option String)
  | subscribe (account descriptor : Option Int) (application : Value)
  | unsubscribe (account descriptor : Option Int) (application : Value)
  | watchPost (accountId site board : Option String) (threadNo postNo postSubNo : Option Int)
      (application : Value)
  | listWatches (account : Option Int)
  | findWatchers (descriptors : Option (List (Option Int)))
  | resolveDescriptor (thread postNo postSubNo : Option Int)
  | findDescriptor (id : Option Int)
  | listDescriptors (thread : Option Int)
  | ensurePost (descriptor : Option Int)
  | markPostDead (descriptor : Option Int)
  | resolveThread (site board : Option String) (number : Option Int)
  | findThread (id : Option Int)
  | locateThread (site board : Option String) (number : Option Int)
  | advanceWatermark (id postNo postSubNo : Option Int)
  | readWatermark (id : Option Int)
  | storeLastModified (id : Option Int) (date : Option Moment)
  | readLastModified (id : Option Int)
  | markThreadDead (id : Option Int)
  | watchedThreads

namespace Request

/-- What a request is answered with. -/
abbrev Answer : Request → Type
  | upsertAccount .. | registerToken .. | appendLine .. | recordReply .. | subscribe ..
  | watchPost .. | resolveDescriptor .. | ensurePost .. | resolveThread .. => Int
  | setExpiry .. | expireAccount .. | countAttempt .. | storeLastModified .. => Unit
  | deleteAccount .. | deliverReply .. | markPostDead .. | advanceWatermark .. => Bool
  | sweepInvites .. | appendLines .. | recordReplies .. | countAttempts .. | deliverReplies ..
  | unsubscribe .. | markThreadDead .. => Nat
  | identifyUser .. => String
  | findAccount .. => Option (Entry Account)
  | checkAccount .. => Option Lapse
  | listBelongings .. => Option Account.Belongings
  | listTokens .. => List (Entry Token)
  | generateInvites .. => List String
  | acceptInvite .. => Option String
  | findInvite .. => Option (Entry Invite)
  | readLines .. => List (Entry JournalLine)
  | pendingReplies .. => List (Entry Reply)
  | listReplies .. => List Reply.Details
  | listWatches .. => List Watch.Details
  | findWatchers .. => List (Int × Int)
  | findDescriptor .. => Option Descriptor.Details
  | listDescriptors .. => List Int
  | findThread .. | locateThread .. => Option (Entry Thread)
  | readWatermark .. => Option (Int × Int)
  | readLastModified .. => Option WallTime
  | watchedThreads => List (Entry Thread)

/-- The account id of a user id, under the settings that are in force. -/
def identified (userId : Option String) : Operation String := do
  match Account.idOfUserId (← read).settings userId with
  | .ok accountId => return accountId
  | .error failure => throw failure

/-- The operation that answers a request. -/
def operation : (request : Request) → Operation request.Answer
  | upsertAccount accountId validUntil => Account.upsert accountId validUntil
  | setExpiry accountId validUntil => Account.setExpiry accountId validUntil
  | expireAccount accountId date => Account.expire accountId date
  | deleteAccount accountId => Account.delete accountId
  | findAccount accountId includeDeleted => Account.lookup accountId includeDeleted
  | checkAccount accountId moment => Account.status accountId moment
  | listBelongings accountId => Account.belongings accountId
  | identifyUser userId => identified userId
  | registerToken accountId text application kind => Token.register accountId text application kind
  | listTokens accountId => Token.ofAccount accountId
  | generateInvites amount date => Invite.generate amount date
  | acceptInvite inviteId date => Invite.accept inviteId date
  | sweepInvites date => Invite.cleanup date
  | findInvite inviteId => Invite.lookup inviteId
  | appendLine draft => Journal.append draft
  | appendLines drafts => Journal.appendAll drafts
  | readLines limit before => Journal.newest limit before
  | recordReply account descriptor replyTo => Reply.record account descriptor replyTo
  | recordReplies edges => Reply.recordAll edges
  | countAttempt id => Reply.markAttempt id
  | countAttempts ids => Reply.markAttempts ids
  | deliverReply id date => Reply.markDelivered id date
  | deliverReplies accountId ids date => Reply.markDeliveredFor accountId ids date
  | pendingReplies limit => Reply.pending limit
  | listReplies accountId => Reply.ofAccount accountId
  | subscribe account descriptor application => Watch.subscribe account descriptor application
  | unsubscribe account descriptor application => Watch.unsubscribe account descriptor application
  | watchPost accountId site board threadNo postNo postSubNo application =>
      Watch.watchPost accountId site board threadNo postNo postSubNo application
  | listWatches account => Watch.ofAccount account
  | findWatchers descriptors => Watch.watchers descriptors
  | resolveDescriptor thread postNo postSubNo => Descriptor.resolve thread postNo postSubNo
  | findDescriptor id => Descriptor.lookup id
  | listDescriptors thread => Descriptor.ofThread thread
  | ensurePost descriptor => Post.ensure descriptor
  | markPostDead descriptor => Post.markDead descriptor
  | resolveThread site board number => Thread.resolve site board number
  | findThread id => Thread.lookup id
  | locateThread site board number => Thread.find site board number
  | advanceWatermark id postNo postSubNo => Thread.advance id postNo postSubNo
  | readWatermark id => Thread.lastProcessed id
  | storeLastModified id date => Thread.storeLastModified id date
  | readLastModified id => Thread.lastModified? id
  | markThreadDead id => Thread.markDead id
  | watchedThreads => Thread.watched

/-- Whether a request gives the date that it cannot do without: setting an expiry needs one. -/
def isDated : Request → Prop
  | setExpiry _ validUntil => validUntil.isSome = true
  | _ => True

end Request

/-- One turn of a run: a request and what surrounds it. -/
structure Turn where
  request : Request
  context : Context
  draws : Draws := {}

/-- What is left of a turn's request when its session ends. -/
def Turn.outcome (turn : Turn) (database : Database) : Outcome turn.request.Answer :=
  turn.request.operation.perform turn.context database turn.draws

/-- The database after a run of turns. -/
def Database.after (database : Database) : List Turn → Database
  | [] => database
  | turn :: rest => (turn.outcome database).database.after rest

/-- Runs go on where the run before them ended. -/
theorem Database.after_append (database : Database) (first second : List Turn) :
    database.after (first ++ second) = (database.after first).after second := by
  induction first generalizing database with
  | nil => rfl
  | cons turn rest ih => exact ih (turn.outcome database).database

/-- What every turn keeps holds after every run. -/
theorem Database.after_of_kept {property : Database → Prop}
    (kept : ∀ (turn : Turn) (database : Database),
      property database → property (turn.outcome database).database)
    {database : Database} (holds : property database) (turns : List Turn) :
    property (database.after turns) := by
  induction turns generalizing database with
  | nil => exact holds
  | cons turn rest ih => exact ih (kept turn database holds)

end Lookout
