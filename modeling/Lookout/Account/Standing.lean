import Lookout.Store.Row
import Lookout.Time.Moment

/-!
# Standing

Whether an account may be notified, and if not, why. An account lapses when it is
deleted, when it was never activated, and when its date of expiry has passed; at that
very moment it is still in good standing.
-/

namespace Lookout

open Time (Moment WallTime)

/-- Why an account cannot be notified. -/
inductive Lapse where
  | deleted
  | neverActivated
  | expired (now validUntil : Moment)
  deriving DecidableEq, Repr

/-- A lapse in words. -/
def Lapse.message : Lapse → String
  | deleted => "account is deleted"
  | neverActivated => "valid_until is not set"
  | expired now validUntil =>
      s!"Account is not valid, now: {now.text}, valid_until: {validUntil.text}"

/-- A date without an offset cannot be compared with one that has an offset. -/
structure Incomparable where
  deriving DecidableEq, Repr

namespace Account

/-- A date of expiry with its offset; a stored one has none and counts as universal. -/
def expiry (validUntil : Moment) : Moment :=
  { validUntil with offset := some (validUntil.offset.getD 0) }

/-- Why an account with these dates cannot be notified at a moment, if it cannot. -/
def lapseOf (validUntil deletedOn : Option Moment) (now : Moment) :
    Except Incomparable (Option Lapse) :=
  match deletedOn, validUntil, now.offset with
  | some _, _, _ => .ok (some .deleted)
  | none, none, _ => .ok (some .neverActivated)
  | none, some _, none => .error ⟨⟩
  | none, some validUntil, some offset =>
      let lastMoment := expiry validUntil
      if Moment.instant lastMoment.wall (lastMoment.offset.getD 0) < Moment.instant now.wall offset
      then .ok (some (.expired now lastMoment))
      else .ok none

/-- Why a stored account cannot be notified at a moment, if it cannot. -/
def lapse (account : Account) (now : Moment) : Except Incomparable (Option Lapse) :=
  lapseOf (account.validUntil.map fun wall => ⟨wall, none⟩)
    (account.deletedOn.map fun wall => ⟨wall, none⟩) now

/-- Whether queries count a stored account among those that can be notified: not deleted,
and its expiry still ahead of the clock. -/
def isNotifiable (account : Account) (clock : WallTime) : Bool :=
  account.deletedOn.isNone && account.validUntil.any fun validUntil => clock < validUntil

end Account

end Lookout
