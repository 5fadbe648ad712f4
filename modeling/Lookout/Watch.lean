import Lookout.Account.Tokens
import Lookout.Post

/-!
# Watches

An account watches posts, for each application on its own. Finding the watchers of posts
leaves out accounts that cannot be notified.
-/

namespace Lookout.Watch

open Operation Store
open Text (masked plain?)

/-- What a watch is known by. -/
def naturalKey : List Schema.Column := [.ownerAccountId, .ownerDescriptorId, .applicationType]

/-- The number of a watch, which is added if it is new; nothing is committed. -/
def insert (account descriptor application : Option Int) : Operation Int :=
  orFail (.noWatchParent account descriptor) do
    prepareInsertion .watches (some naturalKey)
    fits [account, descriptor, application]
    let account ← needed .watches .ownerAccountId account
    let descriptor ← needed .watches .ownerDescriptorId descriptor
    let application ← needed .watches .applicationType application
    let (id, _) ← addUnlessAlike naturalKey { account, descriptor, application : Watch }
    return id

/-- Let an account watch a descriptor for an application. -/
def subscribe (account descriptor : Option Int) (application : Value) : Operation Int := do
  let application ← wholeNumber application
  let id ← insert account descriptor (some application)
  commit
  return id

/-- End the watches of an account on a descriptor, of one application or of all. The
answer says how many there were. -/
def unsubscribe (account descriptor : Option Int) (application : Value) : Operation Nat := do
  let application ← match application with
    | .null => pure none
    | value => some <$> wholeNumber value
  require [.watches]
  fits [account, descriptor, application]
  let count ← eraseWhere fun (entry : Entry Watch) =>
    some entry.row.account = account && some entry.row.descriptor = descriptor &&
      application.all fun application => entry.row.application = application
  commit
  log .info .watches <|
    s!"unsubscribe() Deleted {count} post watches of account {Failure.shown account} " ++
      s!"for post descriptor {Failure.shown descriptor}"
  return count

/-- Let an account watch a post by where it stands, adding what is new on the way. -/
def watchPost (accountId site board : Option String)
    (threadNo postNo postSubNo : Option Int) (application : Value) : Operation Int := do
  let account ← match ← Account.lookup accountId true with
    | some account => pure account
    | none => do
        log .info .watches s!"watch_post() account with id '{masked accountId}' does not exist"
        throw (.noAccount accountId)
  if let some lapse := ← account.row.lapseAt (← now) then
    log .info .watches <|
      s!"watch_post() account with id '{masked accountId}' is not valid " ++
        s!"(status: {lapse.message})"
    throw (.lapsed lapse)
  let thread ← Thread.insert site board threadNo
  let descriptor ← Descriptor.insert (some thread) postNo postSubNo
  let _ ← Post.insert (some descriptor)
  let application ← wholeNumber application
  let id ← insert (some account.id) (some descriptor) (some application)
  commit
  log .info .watches <|
    s!"watch_post() account {masked accountId} watches " ++
      s!"{plain? site}/{plain? board}/{Failure.shown threadNo}/" ++
      s!"{Failure.shown postNo}/{Failure.shown postSubNo}"
  return id

/-- A watch with the id of its account and the number of its post. -/
structure Details where
  watch : Entry Watch
  accountId : Option String
  postNo : Option Int

/-- The watches of an account. -/
def ofAccount (account : Option Int) : Operation (List Details) := do
  require [.watches]
  fits [account]
  let watches := (← rows Watch).select fun entry => some entry.row.account = account
  if watches.isEmpty then return []
  require [.accounts, .descriptors]
  let database ← database
  return watches.map fun watch =>
    { watch
      accountId := (database.accounts.get? watch.row.account).map (·.row.accountId)
      postNo := (database.descriptors.get? watch.row.descriptor).map (·.row.postNo) }

/-- Whether a pair comes before another one or is the same. -/
def pairLe (left right : Int × Int) : Bool :=
  left.1 < right.1 || (left.1 = right.1 && left.2 ≤ right.2)

/-- The descriptors among some with the accounts that watch them and can be notified:
ascending, each pair once. The list has no more members than the store can bind in one
statement. -/
def watchers (descriptors : Option (List (Option Int))) : Operation (List (Int × Int)) := do
  match descriptors with
  | none | some [] => return []
  | some wanted =>
      require [.watches, .accounts]
      fits wanted
      let database ← database
      let clock := (← read).clock
      let matching := database.watches.select fun entry =>
        wanted.contains (some entry.row.descriptor) &&
          database.accounts.entries.any fun account =>
            account.id = entry.row.account && account.row.isNotifiable clock
      return ((matching.map fun entry => (entry.row.descriptor, entry.row.account)).mergeSort
        pairLe).eraseDups

end Lookout.Watch
