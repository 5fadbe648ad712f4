/-!
# The calendar

Days counted from the first of January of the year one, in the calendar that repeats
every 400 years, and the year, month and day they fall on.
-/

namespace Lookout.Time

/-- A day of the calendar. -/
structure Date where
  year : Nat
  month : Nat
  day : Nat
  deriving DecidableEq, Repr

/-- Whether a year has a twenty-ninth of February. -/
def isLeap (year : Nat) : Bool :=
  year % 4 == 0 && (year % 100 != 0 || year % 400 == 0)

/-- The lengths of a year's months. -/
def monthLengths (year : Nat) : List Nat :=
  [31, if isLeap year then 29 else 28, 31, 30, 31, 30, 31, 31, 30, 31, 30, 31]

/-- The days before the first of January of a year. -/
def daysBeforeYear (year : Nat) : Nat :=
  let before := year - 1
  before * 365 + before / 4 - before / 100 + before / 400

/-- The number of days before a date, if there is such a date. -/
def Date.toDays? (date : Date) : Option Nat :=
  match (monthLengths date.year)[date.month - 1]? with
  | some length =>
      if 1 ≤ date.year ∧ date.year ≤ 9999 ∧ 1 ≤ date.month ∧ 1 ≤ date.day ∧ date.day ≤ length then
        some (daysBeforeYear date.year + ((monthLengths date.year).take (date.month - 1)).foldl (· + ·) 0 +
          (date.day - 1))
      else none
  | none => none

/-- The month and day of a day of the year, counted from zero. -/
def monthOf (day month : Nat) : List Nat → Nat × Nat
  | [] => (month, day + 1)
  | length :: rest => if day < length then (month, day + 1) else monthOf (day - length) (month + 1) rest

/-- The date that has a number of days before it. -/
def Date.ofDays (days : Nat) : Date :=
  let inCycle := days % 146097
  let centuries := inCycle / 36524
  let inCentury := inCycle % 36524
  let years := inCentury % 1461 / 365
  let year := days / 146097 * 400 + centuries * 100 + inCentury / 1461 * 4 + years
  if years = 4 ∨ centuries = 4 then ⟨year, 12, 31⟩
  else
    let (month, day) := monthOf (inCentury % 1461 % 365) 1 (monthLengths (year + 1))
    ⟨year + 1, month, day⟩

end Lookout.Time
