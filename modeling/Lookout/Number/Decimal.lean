import Lookout.Number.Double

/-!
# Decimal digits

A positive number in decimal: its digits as one whole number, and the power of ten that
the first of them counts. A ratio is rounded to so many digits, half to even, and a
double has a shortest decimal that no other double is nearer to.
-/

namespace Lookout.Number

/-- A positive number in decimal. -/
structure Decimal where
  digits : Nat
  /-- The power of ten that the first digit counts. -/
  order : Int
  deriving DecidableEq, Repr

/-- How many decimal digits a number has. -/
def digitCount (number : Nat) : Nat :=
  (Nat.toDigits 10 number).length

/-- The power of ten that the first digit of a positive ratio counts. -/
def decimalOrder (numerator denominator : Nat) : Int :=
  let guess : Int := (digitCount numerator : Int) - digitCount denominator
  let (scaled, unit) := scaledQuotient 10 (-guess) numerator denominator
  if unit ≤ scaled then guess else guess - 1

namespace Decimal

/-- Digits that may have one zero too many at their end. -/
def ofDigits (count digits : Nat) (order : Int) : Decimal :=
  if digits < Nat.pow 10 count then ⟨digits, order⟩ else ⟨digits / 10, order + 1⟩

/-- A positive ratio rounded to so many digits, half to even. -/
def rounded (count numerator denominator : Nat) : Decimal :=
  let order := decimalOrder numerator denominator
  let (scaled, unit) := scaledQuotient 10 (count - 1 - order) numerator denominator
  ofDigits count (divideHalfEven scaled unit) order

/-- Whether one ratio is at most another one. -/
def ratioLe (left right : Nat × Nat) : Bool :=
  left.1 * right.2 ≤ right.1 * left.2

/-- Whether one ratio is less than another one. -/
def ratioLt (left right : Nat × Nat) : Bool :=
  left.1 * right.2 < right.1 * left.2

/-- Whether no double is nearer to a ratio than a given one. Halfway to the next double
counts only for an even mantissa, and below a power of two the doubles lie closer. -/
def isNearest (mantissa : Nat) (exponent : Int) (number : Nat × Nat) : Bool :=
  let isClose := mantissa = Nat.pow 2 (Double.mantissaBits - 1) && Double.minExponent < exponent
  let low := Double.ratio (4 * mantissa - if isClose then 1 else 2) (exponent - 2)
  let high := Double.ratio (4 * mantissa + 2) (exponent - 2)
  if mantissa % 2 = 0 then ratioLe low number && ratioLe number high
  else ratioLt low number && ratioLt number high

/-- The decimal of so many digits that lies nearest to a double, if it is nearer to no
other double. -/
def within? (mantissa : Nat) (exponent : Int) (count : Nat) : Option Decimal :=
  let (numerator, denominator) := Double.ratio mantissa exponent
  let order := decimalOrder numerator denominator
  let (scaled, unit) := scaledQuotient 10 (count - 1 - order) numerator denominator
  let lower := scaled / unit
  let ordered :=
    if divideHalfEven scaled unit = lower then [lower, lower + 1] else [lower + 1, lower]
  let found := ordered.find? fun digits =>
    isNearest mantissa exponent (scaledQuotient 10 (order - count + 1) digits 1)
  found.map fun digits => ofDigits count digits order

/-- As many digits as tell any two doubles apart. -/
def enoughDigits : Nat := 17

/-- The shortest decimal for a positive double. -/
def shortest (mantissa : Nat) (exponent : Int) : Decimal :=
  let (numerator, denominator) := Double.ratio mantissa exponent
  (((List.range enoughDigits).map (· + 1)).findSome? (within? mantissa exponent)).getD
    (rounded enoughDigits numerator denominator)

end Decimal

end Lookout.Number
