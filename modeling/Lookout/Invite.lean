import Lookout.Account.Registry

/-!
# Invites

An invite is a random text that opens a trial account once, before it expires. Making
invites, accepting one and sweeping expired ones are each done in one go.
-/

namespace Lookout.Invite

open Operation Store
open Text (masked)
open Time (Moment)

/-- The invite with an id. -/
def lookup (inviteId : Option String) : Operation (Option (Entry Invite)) := do
  require [.invites]
  return (← rows Invite).find? fun entry => some entry.row.inviteId = inviteId

/-- A moment a number of days later. -/
def later (moment : Moment) (days : Int) : Operation Moment :=
  match moment.addDays days with
  | .ok later => return later
  | .error error => throw (.span error)

/-- Draw so many more invite ids that are new to the table and to each other. -/
def drawIds (drawn : List String) : Nat → Operation (List String)
  | 0 => return drawn
  | count + 1 => do
      let inviteId ← drawFree Settings.inviteIdLength fun text => do
        if drawn.contains text then return false
        else return (← lookup (some text)).isNone
      drawIds (drawn ++ [inviteId]) count

/-- Add invites that expire at a moment. -/
def addAll (expiresOn : Moment) : List String → Operation Unit
  | [] => return
  | inviteId :: rest => do
      let _ ← add { inviteId, expiresOn := expiresOn.wall, createdOn := ← stamp : Invite }
      addAll expiresOn rest

/-- Make a number of invites; the answer is their ids. -/
def generate (amount : Option Int) (date : Option Moment) : Operation (List String) := do
  match amount with
  | none => throw (.unordered "<=" "int" "NoneType")
  | some amount =>
      if amount < 0 ∨ (Settings.invitesMax : Int) < amount then throw (.inviteAmount amount)
      let expiresOn ← later (date.getD (← now)) (← read).settings.inviteDays
      let ids ← drawIds [] amount.toNat
      addAll expiresOn ids
      commit
      log .info .invites
        s!"generate_invites() Generated {ids.length} invites, expire on {expiresOn.text}"
      return ids

/-- Whether an invite can be accepted at a moment, by the clock on the wall. -/
def isOpen (invite : Invite) (moment : Moment) : Bool :=
  invite.acceptedOn.isNone && moment.wall < invite.expiresOn

/-- Accept an invite. The answer is the user id of the account that it opens, if it can
be accepted. -/
def accept (inviteId : Option String) (date : Option Moment) : Operation (Option String) := do
  let date := date.getD (← now)
  require [.invites]
  let accepted ← updateWhere
    (fun (entry : Entry Invite) => some entry.row.inviteId = inviteId && entry.row.isOpen date)
    fun row => { row with acceptedOn := some date.wall }
  if accepted = 0 then
    rollback
    log .info .invites <|
      "accept_invite() invite does not exist or not valid, " ++ s!"invite: {masked inviteId}"
    return none
  let settings := (← read).settings
  let identify (userId : String) : Operation String :=
    match Account.idOfUserId settings (some userId) with
    | .ok accountId => return accountId
    | .error failure => throw failure
  let userId ← drawFree Settings.userIdMax fun userId => do
    return (← Account.lookup (some (← identify userId)) true).isNone
  let accountId ← identify userId
  let validUntil ← later date settings.trialDays
  prepareInsertion .accounts (some [.accountId])
  let (_, isNew) ← addUnlessAlike [.accountId]
    { accountId, validUntil := some validUntil.wall, createdOn := ← stamp : Account }
  if !isNew then
    rollback
    log .info .invites
      s!"accept_invite() Account already exists, invite: {masked inviteId}"
    return none
  commit
  log .info .invites
    s!"accept_invite() success, account {masked accountId} valid until {validUntil.text}"
  return some userId

/-- Remove invites that expired without having been accepted; the answer says how many. -/
def cleanup (date : Option Moment) : Operation Nat := do
  let date := date.getD (← now)
  require [.invites]
  let count ← eraseWhere fun (entry : Entry Invite) =>
    entry.row.acceptedOn.isNone && entry.row.expiresOn < date.wall
  commit
  log .info .invites s!"cleanup_expired() deleted {count} expired invites"
  return count

end Lookout.Invite
