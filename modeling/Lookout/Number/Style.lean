import Lookout.Number.Decimal

/-!
# Styles of doubles

How doubles are written: plainly, with the fewest digits that tell them apart, or in a
style with a given precision, which is the number of places after the point or the
number of digits in all.
-/

namespace Lookout.Number

/-- The styles that a double can be written in with a precision. -/
inductive Style where
  /-- All places before the point, and so many after it. -/
  | fixed
  /-- One place before the point, so many after it, and a power of ten. -/
  | scientific
  /-- So many digits in one of the other styles, whichever suits the size. -/
  | general
  deriving DecidableEq, Repr

/-- A power of ten behind a number, with a sign and at least two digits. -/
def exponentMark (order : Int) : List Char :=
  let digits := Nat.toDigits 10 order.natAbs
  'e' :: (if order < 0 then '-' else '+') :: (List.replicate (2 - digits.length) '0' ++ digits)

/-- Digits with a point behind the first so many of them. A point at the very end is left
out unless it is wanted. -/
def pointed (places : Nat) (keepPoint : Bool) (digits : List Char) : List Char :=
  let fraction := digits.drop places
  digits.take places ++ if fraction.isEmpty && !keepPoint then [] else '.' :: fraction

/-- Digits without the zeros at their end. -/
def withoutTrailingZeros (digits : List Char) : List Char :=
  (digits.reverse.dropWhile (· = '0')).reverse

/-- A number whose first digit counts a power of ten, without a mark for that power: zeros
fill the places up to the point. -/
def positional (keepPoint : Bool) (digits : List Char) (order : Int) : List Char :=
  if order < 0 then
    pointed 1 keepPoint (List.replicate order.natAbs '0' ++ digits)
  else
    let places := order.toNat + 1
    pointed places keepPoint (digits ++ List.replicate (places - digits.length) '0')

namespace Style

/-- A ratio with so many places after the point. -/
def fixedText (precision : Nat) (keepPoint : Bool) (numerator denominator : Nat) : List Char :=
  let digits := Nat.toDigits 10 (divideHalfEven (numerator * Nat.pow 10 precision) denominator)
  let digits := List.replicate (precision + 1 - digits.length) '0' ++ digits
  pointed (digits.length - precision) keepPoint digits

/-- The digits of a ratio, so many of them, and the power of ten of the first. Zero has
zeros only. -/
def digitsOf (count numerator denominator : Nat) : List Char × Int :=
  if numerator = 0 then (List.replicate count '0', 0)
  else
    let decimal := Decimal.rounded count numerator denominator
    (Nat.toDigits 10 decimal.digits, decimal.order)

/-- A ratio in a style. The alternate form keeps a point at the end, and in the general
style it keeps the zeros at the end too. -/
def ratioText (style : Style) (precision : Nat) (alternate : Bool)
    (numerator denominator : Nat) : List Char :=
  match style with
  | fixed => fixedText precision alternate numerator denominator
  | scientific =>
      let (digits, order) := digitsOf (precision + 1) numerator denominator
      pointed 1 alternate digits ++ exponentMark order
  | general =>
      let count := max precision 1
      let (digits, order) := digitsOf count numerator denominator
      let shown := if alternate then digits else withoutTrailingZeros digits
      let shown := if shown.isEmpty then ['0'] else shown
      if -4 ≤ order ∧ order < count then positional alternate shown order
      else pointed 1 alternate shown ++ exponentMark order

/-- The absolute value of a double in a style. -/
def text (style : Style) (precision : Nat) (alternate : Bool) : Double → List Char
  | .finite _ mantissa exponent =>
      let (numerator, denominator) := Double.ratio mantissa exponent
      style.ratioText precision alternate numerator denominator
  | .infinite _ => "inf".toList
  | .undefined => "nan".toList

end Style

namespace Double

/-- Whether a double carries a minus sign. -/
def isNegative : Double → Bool
  | finite negative .. => negative
  | infinite negative => negative
  | undefined => false

/-- Where plain text begins to count powers of ten instead of writing places. -/
def plainPlaces : Nat := 16

/-- The absolute value of a double as plain text: with a point and the fewest digits. -/
def plainDigits : Double → List Char
  | finite _ mantissa exponent =>
      if mantissa = 0 then "0.0".toList
      else
        let decimal := Decimal.shortest mantissa exponent
        let digits := withoutTrailingZeros (Nat.toDigits 10 decimal.digits)
        let order := decimal.order
        if -5 < order ∧ order < plainPlaces then
          if digits.length ≤ order + 1 then positional true digits order ++ ['0']
          else positional true digits order
        else pointed 1 false digits ++ exponentMark order
  | infinite _ => "inf".toList
  | undefined => "nan".toList

/-- A double as plain text. -/
def plain (value : Double) : String :=
  String.ofList ((if value.isNegative then ['-'] else []) ++ value.plainDigits)

end Double

end Lookout.Number
