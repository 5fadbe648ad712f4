/-!
# Doubles

Numbers in binary floating point with 53 bits, as their exact values: a whole number
times a power of two, with a sign of its own, so that there are two zeros. A ratio is
rounded to the nearest of them, half to even.
-/

namespace Lookout.Number

/-- A number in binary floating point. -/
inductive Double where
  /-- The mantissa times a power of two. -/
  | finite (negative : Bool) (mantissa : Nat) (exponent : Int)
  | infinite (negative : Bool)
  /-- The result of an operation that has none. -/
  | undefined
  deriving DecidableEq, Repr

/-- A quotient as a whole number, half to even. -/
def divideHalfEven (numerator denominator : Nat) : Nat :=
  let quotient := numerator / denominator
  let rest := 2 * (numerator % denominator)
  if rest < denominator then quotient
  else if denominator < rest then quotient + 1
  else if quotient % 2 = 0 then quotient
  else quotient + 1

/-- A quotient of numbers of which one is scaled by a power of a base. -/
def scaledQuotient (base : Nat) (exponent : Int) (numerator denominator : Nat) : Nat × Nat :=
  if 0 ≤ exponent then (numerator * base.pow exponent.toNat, denominator)
  else (numerator, denominator * base.pow exponent.natAbs)

namespace Double

/-- The bits of a mantissa. -/
def mantissaBits : Nat := 53

/-- The smallest exponent. -/
def minExponent : Int := -1074

/-- The largest exponent. -/
def maxExponent : Int := 971

/-- Zero with a sign. -/
def zero (negative : Bool) : Double :=
  finite negative 0 minExponent

/-- A mantissa that may have one bit too many, unless the number is too large. -/
def ofMantissa (negative : Bool) (mantissa : Nat) (exponent : Int) : Double :=
  let (mantissa, exponent) :=
    if mantissa < Nat.pow 2 mantissaBits then (mantissa, exponent) else (mantissa / 2, exponent + 1)
  if maxExponent < exponent then infinite negative else finite negative mantissa exponent

/-- The double nearest to a ratio, the even one of two. -/
def ofRatio (negative : Bool) (numerator denominator : Nat) : Double :=
  if numerator = 0 then zero negative
  else
    let low : Int := (numerator.log2 : Int) - denominator.log2 - mantissaBits
    let (scaled, unit) := scaledQuotient 2 (-low) numerator denominator
    let exponent :=
      max minExponent (if scaled / unit < Nat.pow 2 mantissaBits then low else low + 1)
    let (scaled, unit) := scaledQuotient 2 (-exponent) numerator denominator
    ofMantissa negative (divideHalfEven scaled unit) exponent

/-- The double nearest to a whole number. -/
def ofInt (number : Int) : Double :=
  ofRatio (number < 0) number.natAbs 1

/-- Decimal numbers beyond ten to this power are infinite, and below ten to its negative
they are zero. -/
def decimalLimit : Nat := 400

/-- The double nearest to decimal digits times a power of ten. -/
def ofDecimal (negative : Bool) (digits : Nat) (exponent : Int) : Double :=
  let order := (Nat.toDigits 10 digits).length + exponent
  if digits = 0 || order < -decimalLimit then zero negative
  else if decimalLimit < order then infinite negative
  else
    let (numerator, denominator) := scaledQuotient 10 exponent digits 1
    ofRatio negative numerator denominator

/-- The absolute value of a finite double as a ratio. -/
def ratio (mantissa : Nat) (exponent : Int) : Nat × Nat :=
  scaledQuotient 2 exponent mantissa 1

/-- A number with a sign. -/
def signed (negative : Bool) (size : Nat) : Int :=
  if negative then -size else size

/-- The whole part of a finite double. -/
def whole? : Double → Option Int
  | finite negative mantissa exponent =>
      let (numerator, denominator) := ratio mantissa exponent
      some (signed negative (numerator / denominator))
  | _ => none

/-- What is left of a finite double without its whole part, times a whole number: the
product is rounded to a double, and then to a whole number, half to even both times. -/
def scaledFraction? (factor : Nat) : Double → Option Int
  | finite negative mantissa exponent =>
      let (numerator, denominator) := ratio mantissa exponent
      match ofRatio negative (numerator % denominator * factor) denominator with
      | finite negative mantissa exponent =>
          let (numerator, denominator) := ratio mantissa exponent
          some (signed negative (divideHalfEven numerator denominator))
      | _ => none
  | _ => none

end Double

end Lookout.Number
