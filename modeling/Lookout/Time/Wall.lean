import Lookout.Number.Double
import Lookout.Time.Calendar

/-!
# Wall-clock times and stored stamps

A wall-clock time is what calendar and clock show, to the microsecond, without a time
zone. This is what the store keeps of a date. A column that is filled in by default
holds whole seconds and sorts before a written time of the same second, because the
text of its default has no fraction.
-/

namespace Lookout.Time

/-- Microseconds since the start of the year one. -/
structure WallTime where
  micros : Nat
  deriving DecidableEq, Repr

/-- Microseconds in a second. -/
def microsPerSecond : Nat := 1000000

/-- Microseconds in a day. -/
def microsPerDay : Nat := 86400 * microsPerSecond

/-- The first time after the last year that has four digits. -/
def wallLimit : Nat := daysBeforeYear 10000 * microsPerDay

/-- A number in decimal, padded with zeros. -/
def padded (width number : Nat) : String :=
  let digits := toString number
  String.ofList (List.replicate (width - digits.length) '0') ++ digits

namespace WallTime

instance : LT WallTime := ⟨fun left right => left.micros < right.micros⟩

instance (left right : WallTime) : Decidable (left < right) :=
  inferInstanceAs (Decidable (left.micros < right.micros))

instance : LE WallTime := ⟨fun left right => left.micros ≤ right.micros⟩

instance (left right : WallTime) : Decidable (left ≤ right) :=
  inferInstanceAs (Decidable (left.micros ≤ right.micros))

/-- The time on a date after a number of microseconds. -/
def ofDays (days micros : Nat) : WallTime :=
  ⟨days * microsPerDay + micros⟩

/-- The time without its fraction of a second. -/
def wholeSecond (wall : WallTime) : WallTime :=
  ⟨wall.micros / microsPerSecond * microsPerSecond⟩

/-- The fraction of a second, in microseconds. -/
def fraction (wall : WallTime) : Nat :=
  wall.micros % microsPerSecond

/-- The time in ISO form, with six digits of fraction unless the fraction is zero. -/
def text (wall : WallTime) : String :=
  let date := Date.ofDays (wall.micros / microsPerDay)
  let seconds := wall.micros % microsPerDay / microsPerSecond
  padded 4 date.year ++ "-" ++ padded 2 date.month ++ "-" ++ padded 2 date.day ++ "T" ++
    padded 2 (seconds / 3600) ++ ":" ++ padded 2 (seconds / 60 % 60) ++ ":" ++
    padded 2 (seconds % 60) ++
    if wall.fraction = 0 then "" else "." ++ padded 6 wall.fraction

/-- Shift a time, if the result lies in the years one to 9999. -/
def shift? (wall : WallTime) (micros : Int) : Option WallTime :=
  let shifted := (wall.micros : Int) + micros
  if 0 ≤ shifted ∧ shifted < (wallLimit : Int) then some ⟨shifted.toNat⟩ else none

/-- The start of the year 1970, from which log records count. -/
def epoch : WallTime := ofDays (daysBeforeYear 1970) 0

/-- The time a number of whole seconds after the epoch, if it lies in the years one to
9999. -/
def ofEpochSeconds? (seconds : Int) : Option WallTime :=
  epoch.shift? (seconds * microsPerSecond)

/-- The time a number of seconds after the epoch, its fraction rounded to microseconds
and half to even, if it lies in the years one to 9999. -/
def ofEpochDouble? (seconds : Number.Double) : Option WallTime := do
  let whole ← seconds.whole?
  let micros ← seconds.scaledFraction? microsPerSecond
  epoch.shift? (whole * microsPerSecond + micros)

end WallTime

/-- A time in a column that has a default: written by someone, or filled in by default. -/
structure Stamp where
  wall : WallTime
  written : Bool := true
  deriving DecidableEq, Repr

namespace Stamp

/-- The stamp that a default fills in: the clock without its fraction. -/
def ofClock (clock : WallTime) : Stamp :=
  ⟨clock.wholeSecond, false⟩

/-- Stored stamps order as their texts do. -/
def before (left right : Stamp) : Bool :=
  left.wall < right.wall || (left.wall = right.wall && !left.written && right.written)

end Stamp

end Lookout.Time
