import Lookout.Value

/-!
# Message templates

A log message may be a template with directives such as `%s`, `%5d` or `%.2f`, filled
from a list of arguments, or `%(name)s`, filled from a map. A directive that does not
exist, that its argument does not suit, or that lacks an argument spoils the message, and
so does an argument left over. A template is read first and filled afterwards.
-/

namespace Lookout.Text

open Number (Double Style)

/-! ## What directives ask for -/

/-- A width or a precision: written in the directive, or taken from the arguments. -/
inductive Measure where
  | fixed (value : Nat)
  | given
  deriving DecidableEq, Repr

/-- The marks that change how a field looks. -/
structure Flags where
  left : Bool := false
  plus : Bool := false
  blank : Bool := false
  alternate : Bool := false
  zeros : Bool := false
  deriving DecidableEq, Repr

/-- A directive of a template. -/
structure Directive where
  /-- The name that the argument has in a map. -/
  key : Option String
  flags : Flags
  width : Measure
  precision : Option Measure
  letter : Char
  deriving DecidableEq, Repr

/-- A part of a template. -/
inductive Piece where
  | literal (character : Char)
  | directive (directive : Directive)
  deriving DecidableEq, Repr

/-! ## Reading -/

/-- A name up to the parenthesis that closes it, and what follows; parentheses inside the
name come in pairs. -/
def takeName? (depth : Nat) : List Char → Option (List Char × List Char)
  | [] => none
  | ')' :: rest =>
      match depth with
      | 0 => some ([], rest)
      | depth + 1 => (takeName? depth rest).map fun (name, more) => (')' :: name, more)
  | character :: rest =>
      (takeName? (if character = '(' then depth + 1 else depth) rest).map fun (name, more) =>
        (character :: name, more)

/-- The name in parentheses that a directive may start with. -/
def takeKey? : List Char → Option (Option String × List Char)
  | '(' :: rest => (takeName? 0 rest).map fun (name, more) => (some (String.ofList name), more)
  | rest => some (none, rest)

/-- The flags of a directive. -/
def takeFlags : List Char → Flags → Flags × List Char
  | '-' :: rest, flags => takeFlags rest { flags with left := true }
  | '+' :: rest, flags => takeFlags rest { flags with plus := true }
  | ' ' :: rest, flags => takeFlags rest { flags with blank := true }
  | '#' :: rest, flags => takeFlags rest { flags with alternate := true }
  | '0' :: rest, flags => takeFlags rest { flags with zeros := true }
  | rest, flags => (flags, rest)

/-- A star, or the decimal number at the front of a text; no digits count as zero. -/
def takeMeasure : List Char → Measure × List Char
  | '*' :: rest => (.given, rest)
  | text =>
      (.fixed ((text.takeWhile Char.isDigit).foldl
          (fun total digit => 10 * total + (digit.toNat - 48)) 0),
        text.dropWhile Char.isDigit)

/-- The precision of a directive, after a point. -/
def takePrecision : List Char → Option Measure × List Char
  | '.' :: rest => (some (takeMeasure rest).1, (takeMeasure rest).2)
  | rest => (none, rest)

/-- A text without the mark of a length that may stand before the letter of a directive. -/
def dropLength : List Char → List Char
  | 'h' :: rest | 'l' :: rest | 'L' :: rest => rest
  | rest => rest

/-- What stands after the percent sign of a directive, and the text behind it. -/
def readDirective? (text : List Char) : Option (Directive × List Char) :=
  match takeKey? text with
  | none => none
  | some (key, rest) =>
      let (flags, rest) := takeFlags rest {}
      let (width, rest) := takeMeasure rest
      let (precision, rest) := takePrecision rest
      match dropLength rest with
      | letter :: rest => some ({ key, flags, width, precision, letter }, rest)
      | [] => none

/-- A name is taken from the front. -/
theorem length_takeName?_le {depth : Nat} {text name rest : List Char}
    (found : takeName? depth text = some (name, rest)) : rest.length ≤ text.length := by
  fun_induction takeName? depth text generalizing name rest with
  | case1 => simp at found
  | case2 more =>
      simp only [Option.some.injEq, Prod.mk.injEq] at found
      simp [found.2]
  | case3 more depth ih =>
      obtain ⟨pair, inner, rebuilt⟩ := Option.map_eq_some_iff.1 found
      simp only [Prod.mk.injEq] at rebuilt
      exact Nat.le_succ_of_le (rebuilt.2 ▸ ih inner)
  | case4 depth character more _ ih =>
      obtain ⟨pair, inner, rebuilt⟩ := Option.map_eq_some_iff.1 found
      simp only [Prod.mk.injEq] at rebuilt
      exact Nat.le_succ_of_le (rebuilt.2 ▸ ih inner)

/-- The name of a directive is taken from the front. -/
theorem length_takeKey?_le {text rest : List Char} {key : Option String}
    (found : takeKey? text = some (key, rest)) : rest.length ≤ text.length := by
  unfold takeKey? at found
  split at found
  · obtain ⟨pair, inner, rebuilt⟩ := Option.map_eq_some_iff.1 found
    simp only [Prod.mk.injEq] at rebuilt
    exact Nat.le_succ_of_le (rebuilt.2 ▸ length_takeName?_le inner)
  · simp only [Option.some.injEq, Prod.mk.injEq] at found
    simp [found.2]

/-- Flags are taken from the front. -/
theorem length_takeFlags_le (text : List Char) (flags : Flags) :
    (takeFlags text flags).2.length ≤ text.length := by
  fun_induction takeFlags text flags <;> simp_all <;> omega

/-- A measure is taken from the front. -/
theorem length_takeMeasure_le (text : List Char) :
    (takeMeasure text).2.length ≤ text.length := by
  unfold takeMeasure
  split
  · simp
  · exact (List.dropWhile_sublist _).length_le

/-- A precision is taken from the front. -/
theorem length_takePrecision_le (text : List Char) :
    (takePrecision text).2.length ≤ text.length := by
  unfold takePrecision
  split
  · exact Nat.le_succ_of_le (length_takeMeasure_le _)
  · exact Nat.le_refl _

/-- The mark of a length is taken from the front. -/
theorem length_dropLength_le (text : List Char) : (dropLength text).length ≤ text.length := by
  unfold dropLength
  split <;> simp

/-- A directive takes up at least its letter. -/
theorem length_readDirective?_lt {text rest : List Char} {directive : Directive}
    (found : readDirective? text = some (directive, rest)) : rest.length < text.length := by
  unfold readDirective? at found
  split at found
  · simp at found
  · rename_i key afterKey isKey
    have name := length_takeKey?_le isKey
    have flags := length_takeFlags_le afterKey {}
    have width := length_takeMeasure_le (takeFlags afterKey {}).2
    have precision := length_takePrecision_le (takeMeasure (takeFlags afterKey {}).2).2
    have mark := length_dropLength_le
      (takePrecision (takeMeasure (takeFlags afterKey {}).2).2).2
    simp only at found
    split at found
    · rename_i head tail shape
      simp only [Option.some.injEq, Prod.mk.injEq] at found
      rw [shape, found.2, List.length_cons] at mark
      omega
    · simp at found

/-- The pieces of a template; two percent signs stand for one. -/
def pieces? : List Char → Option (List Piece)
  | [] => some []
  | '%' :: '%' :: rest => (pieces? rest).map (.literal '%' :: ·)
  | '%' :: rest =>
      match _found : readDirective? rest with
      | some (directive, more) => (pieces? more).map (.directive directive :: ·)
      | none => none
  | character :: rest => (pieces? rest).map (.literal character :: ·)
termination_by text => text.length
decreasing_by
  · exact Nat.lt_succ_of_lt (Nat.lt_succ_self rest.length)
  · exact Nat.lt_succ_of_lt (length_readDirective?_lt _found)
  · exact Nat.lt_succ_self rest.length

/-! ## Fields -/

/-- The layout of a field whose measures are known. -/
structure Layout where
  flags : Flags := {}
  width : Nat := 0
  precision : Option Nat := none

namespace Layout

/-- A field brought to its width. -/
def pad (layout : Layout) (body : List Char) : List Char :=
  let fill := List.replicate (layout.width - body.length) ' '
  if layout.flags.left then body ++ fill else fill ++ body

/-- A number brought to its width, zeros behind its sign if they are asked for. -/
def padNumber (layout : Layout) (front digits : List Char) : List Char :=
  if layout.flags.zeros && !layout.flags.left then
    front ++ List.replicate (layout.width - front.length - digits.length) '0' ++ digits
  else layout.pad (front ++ digits)

/-- The sign of a number, which is shown for positive ones on request. -/
def sign (layout : Layout) (negative : Bool) : List Char :=
  if negative then ['-']
  else if layout.flags.plus then ['+']
  else if layout.flags.blank then [' ']
  else []

/-- A text as a directive shows it: cut to the precision, then padded. -/
def textField (layout : Layout) (value : String) : List Char :=
  let characters := value.toList
  layout.pad (match layout.precision with
    | some precision => characters.take precision
    | none => characters)

/-- A whole number as a directive shows it, in a base with an optional mark in front. -/
def integerField (layout : Layout) (base : Nat) (mark : List Char) (upperCase : Bool)
    (value : Int) : List Char :=
  let plainDigits := Nat.toDigits base value.natAbs
  let digits := if upperCase then plainDigits.map Char.toUpper else plainDigits
  let digits := List.replicate (layout.precision.getD 0 - digits.length) '0' ++ digits
  layout.padNumber (layout.sign (value < 0) ++ if layout.flags.alternate then mark else []) digits

/-- The precision of doubles where none is given. -/
def realPrecision : Nat := 6

/-- A double as a directive shows it in a style. -/
def realField (layout : Layout) (style : Style) (upperCase : Bool) (value : Double) :
    List Char :=
  let digits := style.text (layout.precision.getD realPrecision) layout.flags.alternate value
  layout.padNumber (layout.sign value.isNegative)
    (if upperCase then digits.map Char.toUpper else digits)

/-- The character that a value is, or that it is the code of. -/
def character? : Value → Option Char
  | .text value => match value.toList with
      | [character] => some character
      | _ => none
  | value => do
      let code ← value.integer?
      if 0 ≤ code && code ≤ 0x10ffff then
        let character := Char.ofNat code.toNat
        if character.toNat = code.toNat then some character else none
      else none

/-- The whole number that a directive for numbers shows of a value. -/
def number? : Value → Option Int
  | .real value => value.whole?
  | value => value.integer?

/-- The double that a directive for doubles shows of a value; a whole number may be too
large to be one. -/
def double? : Value → Option Double
  | .real value => some value
  | value => do
      match Double.ofInt (← value.integer?) with
      | .infinite _ => none
      | double => some double

/-- A directive's letter applied to one value. -/
def field? (layout : Layout) (letter : Char) (value : Value) : Option (List Char) :=
  if letter = 's' then some (layout.textField value.plain)
  else if letter = 'r' then some (layout.textField value.shown)
  else if letter = 'a' then some (layout.textField value.shownAscii)
  else if letter = 'd' || letter = 'i' || letter = 'u' then
    (number? value).map (layout.integerField 10 [] false)
  else if letter = 'x' then value.integer?.map (layout.integerField 16 ['0', 'x'] false)
  else if letter = 'X' then value.integer?.map (layout.integerField 16 ['0', 'X'] true)
  else if letter = 'o' then value.integer?.map (layout.integerField 8 ['0', 'o'] false)
  else if letter = 'c' then (character? value).map fun character => layout.pad [character]
  else if letter = 'e' then (double? value).map (layout.realField .scientific false)
  else if letter = 'E' then (double? value).map (layout.realField .scientific true)
  else if letter = 'f' then (double? value).map (layout.realField .fixed false)
  else if letter = 'F' then (double? value).map (layout.realField .fixed true)
  else if letter = 'g' then (double? value).map (layout.realField .general false)
  else if letter = 'G' then (double? value).map (layout.realField .general true)
  else none

end Layout

/-! ## Filling -/

/-- What a template is filled from. -/
structure Supply where
  /-- The map that directives with a name look into. -/
  fields : Option (List (String × Value))
  /-- The arguments that were not used yet. -/
  pending : List Value

namespace Supply

/-- The supply that arguments make: a single map with something in it can be looked into. -/
def ofArguments : List Value → Supply
  | [.map (field :: more)] => ⟨some (field :: more), [.map (field :: more)]⟩
  | values => ⟨none, values⟩

/-- The value under a name becomes the only argument. -/
def select? (supply : Supply) : Option String → Option Supply
  | none => some supply
  | some key => do
      let value ← (← supply.fields).lookup key
      return { supply with pending := [value] }

/-- The next argument. -/
def next? (supply : Supply) : Option (Value × Supply) :=
  match supply.pending with
  | value :: rest => some (value, { supply with pending := rest })
  | [] => none

/-- Whether no argument is left that should have been used. -/
def isSpent (supply : Supply) : Bool :=
  supply.fields.isSome || supply.pending.isEmpty

end Supply

/-- The number that a measure stands for. -/
def Measure.resolve? (measure : Measure) (supply : Supply) : Option (Int × Supply) :=
  match measure with
  | fixed value => some (value, supply)
  | given => do
      let (value, supply) ← supply.next?
      return (← value.integer?, supply)

/-- Wider fields are not made, since no message can be so long. -/
def widthLimit : Nat := 1000000000

/-- The largest precision. -/
def precisionLimit : Nat := 2147483647

/-- A precision within its bounds; a negative one counts as zero. -/
def admittedPrecision? (precision : Int) : Option Nat :=
  if -precisionLimit - 1 ≤ precision ∧ precision ≤ precisionLimit then some precision.toNat
  else none

/-- The precision that a directive asks for, if it asks for one. -/
def Directive.precision? (directive : Directive) (supply : Supply) :
    Option (Option Nat × Supply) :=
  match directive.precision with
  | none => some (none, supply)
  | some measure => do
      let (precision, supply) ← measure.resolve? supply
      return (some (← admittedPrecision? precision), supply)

/-- A width within its bounds; a negative one puts the field to the left. -/
def Flags.layout? (flags : Flags) (width : Int) (precision : Option Nat) : Option Layout :=
  if width.natAbs ≤ widthLimit then
    some { flags := { flags with left := flags.left || width < 0 }
           width := width.natAbs
           precision }
  else none

/-- The field that a directive makes of the next arguments. -/
def Directive.field? (directive : Directive) (supply : Supply) :
    Option (List Char × Supply) := do
  let supply ← supply.select? directive.key
  let (width, supply) ← directive.width.resolve? supply
  let (precision, supply) ← directive.precision? supply
  let layout ← directive.flags.layout? width precision
  let (value, supply) ← supply.next?
  return (← layout.field? directive.letter value, supply)

/-- Fill the pieces of a template. -/
def fillPieces : List Piece → Supply → Option (List Char)
  | [], supply => if supply.isSpent then some [] else none
  | .literal character :: rest, supply => (fillPieces rest supply).map (character :: ·)
  | .directive directive :: rest, supply => do
      let (field, supply) ← directive.field? supply
      let filled ← fillPieces rest supply
      return field ++ filled

/-- The message that a template and its arguments make, if they suit each other. Without
arguments a message is taken as it stands. -/
def fill? (template : String) (arguments : List Value) : Option String :=
  if arguments.isEmpty then some template
  else do
    let pieces ← pieces? template.toList
    let filled ← fillPieces pieces (.ofArguments arguments)
    return String.ofList filled

end Lookout.Text
