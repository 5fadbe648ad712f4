import Lookout.Time.Wall

/-!
# Moments

A moment is a wall-clock time with the offset of its time zone, where one is known.
Storing a moment keeps its wall-clock time only; comparing two moments needs both
offsets.
-/

namespace Lookout.Time

/-- A wall-clock time and the minutes it is ahead of universal time. -/
structure Moment where
  wall : WallTime
  offset : Option Int := none
  deriving DecidableEq, Repr

/-- Why days cannot be added to a moment. -/
inductive SpanError where
  /-- The number of days does not fit into a machine word. -/
  | beyondWord
  /-- No span has so many days. -/
  | tooManyDays (days : Int)
  /-- The result lies outside the years one to 9999. -/
  | outOfRange
  deriving DecidableEq, Repr

/-- The largest number of days a span may have, in either direction. -/
def maxSpanDays : Nat := 999999999

namespace Moment

/-- A moment of universal time. -/
def utc (wall : WallTime) : Moment := ⟨wall, some 0⟩

/-- Microseconds on the time line, for a moment with an offset. -/
def instant (wall : WallTime) (offset : Int) : Int :=
  wall.micros - offset * 60 * microsPerSecond

/-- The wall-clock time of universal time; a moment without offset counts as universal. -/
def toUtc (moment : Moment) : WallTime :=
  ⟨(instant moment.wall (moment.offset.getD 0)).toNat⟩

/-- An offset as `+hh:mm` or `-hh:mm`. -/
def offsetText (offset : Int) : String :=
  (if offset < 0 then "-" else "+") ++ padded 2 (offset.natAbs / 60) ++ ":" ++
    padded 2 (offset.natAbs % 60)

/-- A moment in ISO form. -/
def text (moment : Moment) : String :=
  moment.wall.text ++ match moment.offset with
    | some offset => offsetText offset
    | none => ""

/-- Add days to a moment, keeping its offset. -/
def addDays (moment : Moment) (days : Int) : Except SpanError Moment :=
  if days < -2147483648 ∨ 2147483647 < days then .error .beyondWord
  else if (maxSpanDays : Int) < days.natAbs then .error (.tooManyDays days)
  else match moment.wall.shift? (days * microsPerDay) with
    | some wall => .ok { moment with wall }
    | none => .error .outOfRange

/-- A number of exactly so many digits at the front of a text. -/
def takeDigits? : Nat → List Char → Option (Nat × List Char)
  | 0, rest => some (0, rest)
  | count + 1, digit :: rest =>
      if digit.isDigit then do
        let (value, rest) ← takeDigits? count rest
        return ((digit.toNat - 48) * Nat.pow 10 count + value, rest)
      else none
  | _ + 1, [] => none

/-- A fixed character at the front of a text. -/
def takeChar? (expected : Char) : List Char → Option (List Char)
  | character :: rest => if character = expected then some rest else none
  | [] => none

/-- A fraction of a second after its point: microseconds, further digits dropped. -/
def takeFraction (text : List Char) : Nat × List Char :=
  let digits := (text.takeWhile Char.isDigit).take 6
  (((digits ++ List.replicate (6 - digits.length) '0').foldl
      (fun total digit => 10 * total + (digit.toNat - 48)) 0),
    text.dropWhile Char.isDigit)

/-- The offset at the end of a moment's text. -/
def readOffset? : List Char → Option (Option Int)
  | [] => some none
  | sign :: rest => do
      let direction : Int ← if sign = '+' then some 1 else if sign = '-' then some (-1) else none
      let (hours, rest) ← takeDigits? 2 rest
      let rest ← takeChar? ':' rest
      let (minutes, rest) ← takeDigits? 2 rest
      if hours < 24 ∧ minutes < 60 ∧ rest.isEmpty then
        return some (direction * (hours * 60 + minutes : Nat))
      else none

/-- Read a moment from its ISO form. -/
def ofText? (text : String) : Option Moment := do
  let (year, rest) ← takeDigits? 4 text.toList
  let rest ← takeChar? '-' rest
  let (month, rest) ← takeDigits? 2 rest
  let rest ← takeChar? '-' rest
  let (day, rest) ← takeDigits? 2 rest
  let rest ← takeChar? 'T' rest
  let (hour, rest) ← takeDigits? 2 rest
  let rest ← takeChar? ':' rest
  let (minute, rest) ← takeDigits? 2 rest
  let rest ← takeChar? ':' rest
  let (second, rest) ← takeDigits? 2 rest
  let (micros, rest) := match rest with
    | '.' :: more => takeFraction more
    | rest => (0, rest)
  let offset ← readOffset? rest
  let days ← (Date.mk year month day).toDays?
  if hour < 24 ∧ minute < 60 ∧ second < 60 then
    return ⟨WallTime.ofDays days (((hour * 60 + minute) * 60 + second) * microsPerSecond + micros),
      offset⟩
  else none

end Moment

end Lookout.Time
