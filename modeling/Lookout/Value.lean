import Lookout.Number.Style
import Lookout.Text.Integer

/-!
# Values

What a caller may hand over where any kind of value is taken: in log messages, and
wherever a number may come in another form. A value has a text of its own, a text in
which it shows inside messages, and possibly a whole number that it converts to.
-/

namespace Lookout

open Number (Double)

/-- A value of any kind. -/
inductive Value where
  | null
  | flag (value : Bool)
  | integer (value : Int)
  | real (value : Double)
  | text (value : String)
  | list (values : List Value)
  /-- Values under names, in the order in which they were given. -/
  | map (fields : List (String × Value))

/-- Why a value does not convert to a whole number. -/
inductive IntegerError where
  | numeral (error : Text.NumeralError)
  /-- Values of this kind are no numbers. -/
  | unfit (kind : String)
  | infinite
  | undefined
  deriving DecidableEq, Repr

/-- What is wrong with a value that should be a number. -/
def IntegerError.message : IntegerError → String
  | numeral error => error.message
  | unfit kind =>
      s!"int() argument must be a string, a bytes-like object or a real number, not '{kind}'"
  | infinite => "cannot convert float infinity to integer"
  | undefined => "cannot convert float NaN to integer"

namespace Value

/-- The name of a value's kind in messages. -/
def kindName : Value → String
  | null => "NoneType"
  | flag _ => "bool"
  | integer _ => "int"
  | real _ => "float"
  | text _ => "str"
  | list _ => "list"
  | map _ => "dict"

/-- A value that may be missing. -/
def ofText? : Option String → Value
  | some value => text value
  | none => null

/-- A value that may be missing. -/
def ofInt? : Option Int → Value
  | some value => integer value
  | none => null

mutual

/-- A value as it shows inside a message: a text in quotes. -/
def shown : Value → String
  | null => "None"
  | flag true => "True"
  | flag false => "False"
  | integer value => toString value
  | real value => value.plain
  | text value => Text.quoted value
  | list values => "[" ++ ", ".intercalate (shownAll values) ++ "]"
  | map fields => "\x7b" ++ ", ".intercalate (shownFields fields) ++ "\x7d"

/-- Values as they show inside a list. -/
def shownAll : List Value → List String
  | [] => []
  | value :: rest => value.shown :: shownAll rest

/-- Values under names as they show inside a message. -/
def shownFields : List (String × Value) → List String
  | [] => []
  | (name, value) :: rest => (Text.quoted name ++ ": " ++ value.shown) :: shownFields rest

end

/-- A value as running text: a text stands for itself. -/
def plain : Value → String
  | text value => value
  | value => value.shown

/-- A value as it shows inside a message that keeps to ASCII. -/
def shownAscii (value : Value) : String :=
  Text.asciiOnly value.shown

/-- The whole number that a value converts to: numbers lose what follows the point, and
texts are read. -/
def toInteger : Value → Except IntegerError Int
  | flag value => .ok (if value then 1 else 0)
  | integer value => .ok value
  | real (.infinite _) => .error .infinite
  | real value => match value.whole? with
      | some whole => .ok whole
      | none => .error .undefined
  | text value => match Text.readInteger value with
      | .ok number => .ok number
      | .error error => .error (.numeral error)
  | value => .error (.unfit value.kindName)

/-- The whole number that a value is. -/
def integer? : Value → Option Int
  | flag value => some (if value then 1 else 0)
  | integer value => some value
  | _ => none

/-- Whether a value counts as true: everything does but nothing at all, the flag for
false, zero and what is empty. -/
def isTruthy : Value → Bool
  | null => false
  | flag value => value
  | integer value => value ≠ 0
  | real (.finite _ mantissa _) => mantissa ≠ 0
  | real _ => true
  | text value => !value.isEmpty
  | list values => !values.isEmpty
  | map fields => !fields.isEmpty

end Value

end Lookout
