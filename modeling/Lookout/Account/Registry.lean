import Lookout.Account.Identity
import Lookout.Session

/-!
# Registry of accounts

Making, finding, expiring and removing accounts. An account that was expired stays in its
place: making it again answers its number and does not bring it back.
-/

namespace Lookout.Account

open Operation Store
open Text (masked)
open Time (Moment)

/-- The account with an id. Expired ones are found only on request. -/
def lookup (accountId : Option String) (includeDeleted : Bool) :
    Operation (Option (Entry Account)) := do
  require [.accounts]
  return (← rows Account).find? fun entry =>
    some entry.row.accountId = accountId && (includeDeleted || entry.row.deletedOn.isNone)

/-- The account with an id, expired or not. -/
def demand (accountId : Option String) : Operation (Entry Account) := do
  match ← lookup accountId true with
  | some entry => return entry
  | none => throw (.noAccount accountId)

/-- Make an account unless there is one with this id. The answer is its number. -/
def upsert (accountId : Option String) (validUntil : Option Moment) : Operation Int := do
  prepareInsertion .accounts (some [.accountId])
  let accountId ← needed .accounts .accountId accountId
  let (id, added) ← addUnlessAlike [.accountId]
    { accountId, validUntil := validUntil.map (·.wall), createdOn := ← stamp : Account }
  commit
  if added then
    log .info .accounts s!"upsert_account() created account {masked accountId} (id: {id})"
  return id

/-- Set the date on which an account expires. -/
def setExpiry (accountId : Option String) (validUntil : Option Moment) : Operation Unit := do
  let account ← demand accountId
  let _ ← updateWhere (fun entry => entry.id = account.id) fun (row : Account) =>
    { row with validUntil := validUntil.map (·.wall) }
  commit
  match validUntil with
  | some date =>
      log .info .accounts
        s!"update_expiry_date() account {masked accountId} valid until {date.text}"
  | none => throw (.nothingHas "isoformat")

/-- Let an account expire for good, keeping what it owns. -/
def expire (accountId : Option String) (date : Option Moment) : Operation Unit := do
  let date := date.getD (← now)
  let account ← demand accountId
  let _ ← updateWhere (fun entry => entry.id = account.id) fun (row : Account) =>
    { row with validUntil := some date.wall, deletedOn := some date.wall }
  commit
  log .info .accounts s!"expire_account() account {masked accountId} expired at {date.text}"

/-- Remove an account with its tokens, replies and watches; the answer says whether there
was one. -/
def delete (accountId : Option String) : Operation Bool := do
  require [.accounts]
  let count ← eraseWhere fun (entry : Entry Account) => some entry.row.accountId = accountId
  commit
  return 0 < count

/-- Why an account cannot be notified now, if it cannot. -/
def lapseAt (account : Account) (moment : Moment) : Operation (Option Lapse) :=
  match account.lapse moment with
  | .ok lapse => return lapse
  | .error error => throw (.incomparable error)

/-- Why the account with an id, expired or not, cannot be notified at a moment, if it
cannot. -/
def status (accountId : Option String) (moment : Moment) : Operation (Option Lapse) := do
  match ← lookup accountId true with
  | some account => account.row.lapseAt moment
  | none => throw (.nothingHas "deleted_on")

/-- The numbers of the tokens, replies and watches of an account. -/
structure Belongings where
  tokens : List Int
  replies : List Int
  watches : List Int

/-- What an account owns, expired or not. -/
def belongings (accountId : Option String) : Operation (Option Belongings) := do
  match ← lookup accountId true with
  | none => return none
  | some account =>
      require [.tokens, .replies, .watches]
      let database ← database
      return some
        { tokens := (database.tokens.select fun entry => entry.row.account = account.id).map (·.id)
          replies := (database.replies.select fun entry => entry.row.account = account.id).map (·.id)
          watches := (database.watches.select fun entry => entry.row.account = account.id).map (·.id) }

end Lookout.Account
