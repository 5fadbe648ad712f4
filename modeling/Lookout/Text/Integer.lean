import Lookout.Text.Blank
import Lookout.Text.Digit
import Lookout.Text.Quoted

/-!
# Integer text

A whole number as people write it: blanks around it, at most one sign, then decimal
digits of any script with single underscores between them, at most 4300 digits in all.
Anything else is refused with a reason.
-/

namespace Lookout.Text

/-- The most digits a written number may have. -/
def digitLimit : Nat := 4300

/-- Why a text is not read as a number. -/
inductive NumeralError where
  /-- The text is not of the form of a number. -/
  | malformed (text : String)
  /-- The number is written with too many digits. -/
  | tooLong (digits : Nat)
  deriving DecidableEq, Repr

/-- How much of a refused text a message shows, its quotes included. -/
def refusalWidth : Nat := 200

/-- What is wrong with a text that should be a number. -/
def NumeralError.message : NumeralError → String
  | malformed text =>
      "invalid literal for int() with base 10: " ++
        String.ofList ((quoted text).toList.take refusalWidth)
  | tooLong digits =>
      s!"Exceeds the limit ({digitLimit} digits) for integer string conversion: " ++
        s!"value has {digits} digits; " ++
        "use sys.set_int_max_str_digits() to increase the limit"

/-- The values of the digits at the front of a text, and what follows them. A single
underscore may stand between two digits. -/
def digitRun : List Char → List Nat × List Char
  | [] => ([], [])
  | character :: '_' :: next :: rest =>
      match digitValue? character, digitValue? next with
      | some value, some _ =>
          let (values, after) := digitRun (next :: rest)
          (value :: values, after)
      | some value, none => ([value], '_' :: next :: rest)
      | none, _ => ([], character :: '_' :: next :: rest)
  | character :: rest =>
      match digitValue? character with
      | some value =>
          let (values, after) := digitRun rest
          (value :: values, after)
      | none => ([], character :: rest)

/-- The number that decimal digits denote, the most significant first. -/
def ofDigits (values : List Nat) : Nat :=
  values.foldl (fun total value => 10 * total + value) 0

/-- The sign in front of a number, and what follows it. -/
def splitSign : List Char → Int × List Char
  | '-' :: rest => (-1, rest)
  | '+' :: rest => (1, rest)
  | rest => (1, rest)

/-- Read a written whole number. Digits are counted up to where something else follows
them, and too many of them are refused before that is looked at. -/
def readInteger (text : String) : Except NumeralError Int :=
  let (sign, digits) := splitSign (trim text.toList)
  let (values, rest) := digitRun digits
  if values.isEmpty || rest.head? = some '_' then .error (.malformed text)
  else if digitLimit < values.length then .error (.tooLong values.length)
  else if rest.isEmpty then .ok (sign * ofDigits values)
  else .error (.malformed text)

/-- The number that a text writes, if it writes one. -/
def readInteger? (text : String) : Option Int :=
  (readInteger text).toOption

end Lookout.Text
