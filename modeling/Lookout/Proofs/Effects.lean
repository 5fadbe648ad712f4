import Lookout.Proofs.Requests
import Lookout.Proofs.Runs

/-!
# Effects of requests

What each request that is answered has done to the database, as a relation between its
arguments, its answer, and the database before and after. The effects of several steps name
the databases in between.
-/

namespace Lookout

open Operation (isStorable)
open Store
open Time (Moment Stamp WallTime)

/-- Whether an account has an id. -/
def Account.isNamed (accountId : Option String) (entry : Entry Account) : Bool :=
  some entry.row.accountId = accountId

/-- An account that is made. -/
def Account.fresh (context : Context) (accountId : String) (validUntil : Option WallTime) :
    Account :=
  { accountId, validUntil, createdOn := Stamp.ofClock context.clock }

/-- An account is there under an id. -/
inductive Account.Inserted (context : Context) (validUntil : Option WallTime) (before : Database) :
    Option String → Int → Database → Prop where
  | intro {accountId id isNew after}
      (prepared : before.obstacle? .accounts (some [.accountId]) = none)
      (inserts :
        before.Inserts [.accountId] (fresh context accountId validUntil) (id, isNew) after) :
      Inserted context validUntil before (some accountId) id after

namespace Token

/-- Whether a row holds a token for an application and kind. -/
def holds (text : Option String) (application kind : Int) (entry : Entry Token) : Bool :=
  text.isSome && entry.row.text = text && entry.row.application = application &&
    entry.row.kind = kind

/-- Whether a row is the slot of an account for an application and kind. -/
def isSlot (account application kind : Int) (entry : Entry Token) : Bool :=
  entry.row.account = account && entry.row.application = application && entry.row.kind = kind

/-- A token is in the slot of an account: it was, it took the place of what was there, or the
slot has been made for it. -/
inductive Registered (before : Database) (account : Int) (text : Option String)
    (application kind : Int) : Int → Database → Prop where
  | kept {held : Entry Token}
      (found : before.tokens.find? (holds text application kind) = some held)
      (own : held.row.account = account) :
      Registered before account text application kind held.id before
  | replaced {held : Entry Token}
      (free : before.tokens.find? (holds text application kind) = none)
      (found : before.tokens.find? (isSlot account application kind) = some held) :
      Registered before account text application kind held.id
        (before.updated (fun entry => entry.id = held.id) fun (row : Token) => { row with text })
  | added
      (free : before.tokens.find? (holds text application kind) = none)
      (absent : before.tokens.find? (isSlot account application kind) = none)
      (prepared : before.obstacle? .tokens none = none)
      (admitted : before.refusal? { account, text, application, kind : Token } = none) :
      Registered before account text application kind before.tokens.nextId
        (before.added { account, text, application, kind : Token })

end Token

namespace Invite

/-- An invite that is made. -/
def fresh (context : Context) (expiresOn : WallTime) (inviteId : String) : Invite :=
  { inviteId, expiresOn, createdOn := Stamp.ofClock context.clock }

/-- Whether an invite has an id and can be accepted at a moment. -/
def isOpenFor (inviteId : Option String) (date : Moment) (entry : Entry Invite) : Bool :=
  some entry.row.inviteId = inviteId && entry.row.isOpen date

/-- Whether an invite expired before a moment without having been accepted. -/
def isStale (date : Moment) (entry : Entry Invite) : Bool :=
  entry.row.acceptedOn.isNone && entry.row.expiresOn < date.wall

/-- A database in which an invite has been accepted. -/
def spent (before : Database) (inviteId : Option String) (date : Moment) : Database :=
  before.updated (isOpenFor inviteId date) fun row => { row with acceptedOn := some date.wall }

/-- An invite could not be accepted, or it has been and a trial account has been made. -/
inductive Accepted (context : Context) (before : Database) (inviteId : Option String)
    (date : Moment) : Option String → Database → Prop where
  | refused (closed : before.invites.count (isOpenFor inviteId date) = 0) :
      Accepted context before inviteId date none before
  | opened {userId accountId : String} {validUntil : Moment}
      (isOpen : before.invites.count (isOpenFor inviteId date) ≠ 0)
      (identified : Account.idOfUserId context.settings (some userId) = .ok accountId)
      (free : before.accounts.find? (Account.isNamed (some accountId)) = none)
      (trial : date.addDays context.settings.trialDays = .ok validUntil)
      (prepared : before.obstacle? .accounts (some [.accountId]) = none)
      (admitted : (spent before inviteId date).refusal?
        (Account.fresh context accountId (some validUntil.wall)) = none) :
      Accepted context before inviteId date (some userId)
        ((spent before inviteId date).added
          (Account.fresh context accountId (some validUntil.wall)))

end Invite

/-- The line that a draft becomes, if it has what a line needs. -/
def Journal.Draft.line? (draft : Draft) : Option JournalLine := do
  let time ← draft.time
  let message ← draft.message
  return { time := time.wall, level := draft.level, target := draft.target, message }

/-- A thread is there under its site, board and number. -/
inductive Thread.Inserted (context : Context) (before : Database) :
    Option String → Option String → Option Int → Int → Database → Prop where
  | intro {site board number id isNew after}
      (prepared : before.obstacle? .threads (some naturalKey) = none)
      (inserts : before.Inserts naturalKey
        { site, board, number, createdOn := Stamp.ofClock context.clock : Thread }
        (id, isNew) after) :
      Inserted context before (some site) (some board) (some number) id after

/-- A descriptor is there under its thread and numbers. -/
inductive Descriptor.Inserted (before : Database) :
    Option Int → Option Int → Option Int → Int → Database → Prop where
  | intro {thread postNo postSubNo id isNew after}
      (prepared : before.obstacle? .descriptors (some naturalKey) = none)
      (inserts :
        before.Inserts naturalKey { thread, postNo, postSubNo : Descriptor } (id, isNew) after) :
      Inserted before (some thread) (some postNo) (some postSubNo) id after

/-- The post of a descriptor is there. -/
inductive Post.Inserted (context : Context) (before : Database) :
    Option Int → Int → Database → Prop where
  | intro {descriptor id isNew after}
      (prepared : before.obstacle? .posts (some naturalKey) = none)
      (inserts : before.Inserts naturalKey
        { descriptor, createdOn := Stamp.ofClock context.clock : Post } (id, isNew) after) :
      Inserted context before (some descriptor) id after

namespace Reply

/-- A reply is there under its account and its two descriptors. -/
inductive Inserted (context : Context) (before : Database) :
    Option Int → Option Int → Option Int → Int × Bool → Database → Prop where
  | intro {account descriptor replyTo answer after}
      (prepared : before.obstacle? .replies (some naturalKey) = none)
      (inserts : before.Inserts naturalKey
        { account, descriptor, replyTo, createdOn := Stamp.ofClock context.clock : Reply }
        answer after) :
      Inserted context before (some account) (some descriptor) (some replyTo) answer after

/-- Replies are there one after the other; so many of them are new. -/
inductive InsertedAll (context : Context) : Database → List Value → Nat → Database → Prop where
  | nil (database : Database) : InsertedAll context database [] 0 database
  | cons {before middle after : Database} {account descriptor replyTo : Value} {id : Int}
      {isNew : Bool} {rest : List Value} {count : Nat}
      (first : Inserted context before account.integer? descriptor.integer? replyTo.integer?
        (id, isNew) middle)
      (others : InsertedAll context middle rest count after) :
      InsertedAll context before (.list [account, descriptor, replyTo] :: rest)
        (if isNew then count + 1 else count) after

/-- A database in which a failed delivery has been counted for some replies. -/
def attempted (before : Database) (ids : List (Option Int)) : Database :=
  before.updated (fun entry => ids.contains (some entry.id)) fun (row : Reply) =>
    { row with attempts := row.attempts.map countOneMore }

/-- Whether a row is the reply under a number and has not been delivered. -/
def isDeliverable (id : Option Int) (entry : Entry Reply) : Bool :=
  some entry.id = id && entry.row.isUndelivered

/-- Whether a row is among some replies of an account and has not been delivered. -/
def isDeliverableTo (database : Database) (accountId : Option String) (ids : List (Option Int))
    (entry : Entry Reply) : Bool :=
  ids.contains (some entry.id) &&
    ((database.accounts.select (Account.isNamed accountId)).any fun owner =>
      owner.id = entry.row.account) &&
    entry.row.isUndelivered

/-- A database in which the replies of a kind have been delivered on a date. -/
def delivered (before : Database) (wanted : Entry Reply → Bool) (date : Moment) : Database :=
  before.updated wanted fun (row : Reply) => { row with deliveredOn := some date.wall }

end Reply

namespace Watch

/-- A watch is there under its account, descriptor and application. -/
inductive Inserted (before : Database) :
    Option Int → Option Int → Option Int → Int → Database → Prop where
  | intro {account descriptor application id isNew after}
      (prepared : before.obstacle? .watches (some naturalKey) = none)
      (storable : isStorable descriptor = true)
      (inserts :
        before.Inserts naturalKey { account, descriptor, application : Watch } (id, isNew) after) :
      Inserted before (some account) (some descriptor) (some application) id after

/-- Whether a watch is one of an account on a descriptor, of one application or of any. -/
def isOf (account descriptor application : Option Int) (entry : Entry Watch) : Bool :=
  some entry.row.account = account && some entry.row.descriptor = descriptor &&
    application.all fun application => entry.row.application = application

/-- An account in good standing watches a post by where it stands. -/
inductive Placed (context : Context) (before : Database) (accountId site board : Option String)
    (threadNo postNo postSubNo : Option Int) (application : Int) : Int → Database → Prop where
  | intro {owner : Entry Account} {thread descriptor post id : Int}
      {withThread withDescriptor withPost after : Database}
      (named : before.accounts.find? (Account.isNamed accountId) = some owner)
      (valid : owner.row.lapse (Moment.utc context.clock) = .ok none)
      (threaded : Thread.Inserted context before site board threadNo thread withThread)
      (described : Descriptor.Inserted withThread (some thread) postNo postSubNo descriptor
        withDescriptor)
      (posted : Post.Inserted context withDescriptor (some descriptor) post withPost)
      (watched : Inserted withPost (some owner.id) (some descriptor) (some application) id after) :
      Placed context before accountId site board threadNo postNo postSubNo application id after

end Watch

namespace Thread

/-- Whether a row is the thread under a number and its watermark is behind another one. -/
def isBehindAt (id : Option Int) (mark : Int × Int) (entry : Entry Thread) : Bool :=
  some entry.id = id && isBehind entry.row.watermark mark

/-- Whether the post of a row is in a thread. -/
def hasPost (database : Database) (thread : Int) (entry : Entry Post) : Bool :=
  (database.descriptors.select fun descriptor => descriptor.row.thread = thread).any
    fun descriptor => descriptor.id = entry.row.descriptor

/-- A database in which a thread has died with its posts. -/
def buried (before : Database) (thread : Int) : Database :=
  (before.updated (hasPost before thread) fun (row : Post) => { row with isDead := true }).updated
    (fun entry => entry.id = thread) fun (row : Thread) => { row with isDead := some true }

end Thread

/-- The moment that a date stands for; a missing one stands for the present. -/
def Context.moment (context : Context) (date : Option Moment) : Moment :=
  date.getD (Moment.utc context.clock)

/-- What a request that is answered has done to the database. -/
def Request.Effect (context : Context) (before : Database) :
    (request : Request) → request.Answer → Database → Prop
  | upsertAccount accountId validUntil => fun id after =>
      Account.Inserted context (validUntil.map (·.wall)) before accountId id after
  | setExpiry accountId validUntil => fun _ after =>
      ∃ held, before.accounts.find? (Account.isNamed accountId) = some held ∧
        after = before.updated (fun entry => entry.id = held.id) fun (row : Account) =>
          { row with validUntil := validUntil.map (·.wall) }
  | expireAccount accountId date => fun _ after =>
      let date := (context.moment date).wall
      ∃ held, before.accounts.find? (Account.isNamed accountId) = some held ∧
        after = before.updated (fun entry => entry.id = held.id) fun (row : Account) =>
          { row with validUntil := some date, deletedOn := some date }
  | deleteAccount accountId => fun existed after =>
      existed = decide (0 < (before.accounts.select (Account.isNamed accountId)).length) ∧
        after = before.erased (Account.isNamed accountId)
  | registerToken accountId text application kind => fun id after =>
      ∃ held applicationNo kindNo,
        before.accounts.find? (Account.isNamed accountId) = some held ∧
        held.row.deletedOn = none ∧
        application.toInteger = .ok applicationNo ∧ kind.toInteger = .ok kindNo ∧
        Token.Registered before held.id text applicationNo kindNo id after
  | generateInvites amount date => fun ids after =>
      ∃ expiresOn, amount = some (ids.length : Int) ∧
        (context.moment date).addDays context.settings.inviteDays = .ok expiresOn ∧
        (ids ≠ [] → before.missing? [.invites] = none) ∧
        before.AddsAll (ids.map (Invite.fresh context expiresOn.wall)) after
  | acceptInvite inviteId date => fun userId after =>
      Invite.Accepted context before inviteId (context.moment date) userId after
  | sweepInvites date => fun count after =>
      count = (before.invites.select (Invite.isStale (context.moment date))).length ∧
        after = before.erased (Invite.isStale (context.moment date))
  | appendLine draft => fun id after =>
      ∃ line, draft.line? = some line ∧ before.missing? [.journal] = none ∧
        before.refusal? line = none ∧ id = before.journal.nextId ∧ after = before.added line
  | appendLines drafts => fun count after =>
      ∃ given lines, drafts = some given ∧ given.map Journal.Draft.line? = lines.map some ∧
        (given ≠ [] → before.missing? [.journal] = none) ∧ count = given.length ∧
        before.AddsAll lines after
  | recordReply account descriptor replyTo => fun id after =>
      ∃ isNew, Reply.Inserted context before account descriptor replyTo (id, isNew) after
  | recordReplies edges => fun count after =>
      ∃ given, edges = .list given ∧ Reply.InsertedAll context before given count after
  | countAttempt id => fun _ after =>
      (∃ entry ∈ before.replies.entries, some entry.id = id) ∧ after = Reply.attempted before [id]
  | countAttempts ids => fun count after =>
      count = before.replies.count (fun entry => (ids.getD []).contains (some entry.id)) ∧
        after = Reply.attempted before (ids.getD [])
  | deliverReply id date => fun isWritten after =>
      (∃ entry ∈ before.replies.entries, some entry.id = id) ∧
        isWritten = decide (0 < before.replies.count (Reply.isDeliverable id)) ∧
        after = Reply.delivered before (Reply.isDeliverable id) (context.moment date)
  | deliverReplies accountId ids date => fun count after =>
      count = before.replies.count (Reply.isDeliverableTo before accountId (ids.getD [])) ∧
        after = Reply.delivered before (Reply.isDeliverableTo before accountId (ids.getD []))
          (context.moment date)
  | subscribe account descriptor application => fun id after =>
      ∃ number, application.toInteger = .ok number ∧
        Watch.Inserted before account descriptor (some number) id after
  | unsubscribe account descriptor application => fun count after =>
      ∃ chosen : Option Int,
        (application = .null ∧ chosen = none ∨
          application ≠ .null ∧
            ∃ number, application.toInteger = .ok number ∧ chosen = some number) ∧
        count = (before.watches.select (Watch.isOf account descriptor chosen)).length ∧
        after = before.erased (Watch.isOf account descriptor chosen)
  | watchPost accountId site board threadNo postNo postSubNo application => fun id after =>
      ∃ number, application.toInteger = .ok number ∧
        Watch.Placed context before accountId site board threadNo postNo postSubNo number id after
  | resolveDescriptor thread postNo postSubNo => fun id after =>
      Descriptor.Inserted before thread postNo postSubNo id after
  | ensurePost descriptor => fun id after => Post.Inserted context before descriptor id after
  | markPostDead descriptor => fun wasAlive after =>
      ∃ id middle, Post.Inserted context before descriptor id middle ∧
        wasAlive = decide (0 < middle.posts.count fun entry => entry.id = id && !entry.row.isDead) ∧
        after = middle.updated (fun (entry : Entry Post) => entry.id = id && !entry.row.isDead)
          fun row => { row with isDead := true }
  | resolveThread site board number => fun id after =>
      Thread.Inserted context before site board number id after
  | advanceWatermark id postNo postSubNo => fun hasMoved after =>
      ∃ number subNumber, postNo = some number ∧ postSubNo = some subNumber ∧
        (∃ entry ∈ before.threads.entries, some entry.id = id) ∧
        hasMoved = decide (0 < before.threads.count (Thread.isBehindAt id (number, subNumber))) ∧
        after = before.updated (Thread.isBehindAt id (number, subNumber)) fun row =>
          row.withWatermark (number, subNumber)
  | storeLastModified id date => fun _ after =>
      ∃ held ∈ before.threads.entries, some held.id = id ∧
        after = before.updated (fun entry => entry.id = held.id) fun (row : Thread) =>
          { row with lastModified := date.map (·.wall) }
  | markThreadDead id => fun count after =>
      ∃ held ∈ before.threads.entries, some held.id = id ∧
        count = before.posts.count (Thread.hasPost before held.id) ∧
        after = Thread.buried before held.id
  | findAccount .. | checkAccount .. | listBelongings .. | identifyUser .. | listTokens ..
  | findInvite .. | readLines .. | pendingReplies .. | listReplies .. | listWatches ..
  | findWatchers .. | findDescriptor .. | listDescriptors .. | findThread .. | locateThread ..
  | readWatermark .. | readLastModified .. | watchedThreads => fun _ after => after = before

end Lookout
