import Lookout.Schema.Revision
import Lookout.Text.Integer
import Lookout.Text.Word

/-!
# Targets

Where a schema change is to lead: a revision by its name, the newest one, the empty
schema, or a number of steps from a name or from the position of the store. Any of them
may carry a label, the name of a revision that has to exist. Resolving a target gives a
position, and the steps between two positions are revisions.
-/

namespace Lookout.Schema

/-- Which way a schema change goes. -/
inductive Direction where
  | upgrade
  | downgrade
  deriving DecidableEq, Repr

/-- Why a target leads nowhere. -/
inductive TargetError where
  /-- No revision has this key. -/
  | unknown (symbol : String)
  /-- There are not so many revisions that way. -/
  | tooFewSteps (steps : String) (count : Nat)
  /-- There are not so many revisions below a symbol. -/
  | walkedTooFar
  /-- A downgrade cannot lead upwards. -/
  | notBelow (text : String)
  /-- A store has a position of its own, so a range makes no sense for it. -/
  | rangeRefused
  /-- A script for a downgrade has to say where it starts. -/
  | rangeRequired
  /-- A name is empty, or a walk ends where there is no revision. -/
  | unfounded
  /-- A number of steps is not read. -/
  | unread (error : Text.NumeralError)
  /-- There is no target. -/
  | missing
  /-- A range has more than a start and an end. -/
  | tooManyParts
  /-- A range starts at a name that leads to no revision. -/
  | noStart
  deriving DecidableEq, Repr

/-- What is wrong with a target. -/
def TargetError.message : TargetError → String
  | unknown symbol => s!"Can't locate revision identified by '{symbol}'"
  | tooFewSteps steps count => s!"Relative revision {steps} didn't produce {count} migrations"
  | walkedTooFar => "Walked too far"
  | notBelow text =>
      s!"Destination {text} is not a valid downgrade target from current head(s)"
  | rangeRefused => "Range revision not allowed"
  | rangeRequired => "downgrade with --sql requires <fromrev>:<torev>"
  | unfounded => ""
  | unread error => error.message
  | missing => "argument of type 'NoneType' is not iterable"
  | tooManyParts => "too many values to unpack (expected 2)"
  | noStart => "'NoneType' object has no attribute 'revision'"

/-- A number of steps from a symbol, or from the position if there is none. -/
structure Steps where
  label : Option String
  symbol : Option String
  /-- The sign and the digits as they are written. -/
  written : String
  count : Int
  deriving DecidableEq, Repr

namespace Steps

/-- The steps at the front of a text: a symbol or none, a sign, and digits. What follows
the digits is not looked at. -/
def ofFront? (label : Option String) (text : List Char) :
    Option (Except TargetError Steps) :=
  let symbol := text.takeWhile Text.isWordChar
  match text.dropWhile Text.isWordChar with
  | sign :: rest =>
      let digits := rest.takeWhile fun digit => (Text.digitValue? digit).isSome
      if (sign = '+' ∨ sign = '-') ∧ !digits.isEmpty then
        let written := String.ofList (sign :: digits)
        some <| match Text.readInteger written with
          | .ok count =>
              let symbol := if symbol.isEmpty then none else some (String.ofList symbol)
              .ok { label, symbol, written, count }
          | .error error => .error (.unread error)
      else none
  | [] => none

/-- The steps after the first label that they can follow: it ends at an at sign and stays
on one line. The characters of the label so far come in reverse. -/
def afterLabel? (label : List Char) : List Char → Option (Except TargetError Steps)
  | [] => none
  | '@' :: rest =>
      let found := if label.isEmpty then none
        else ofFront? (some (String.ofList label.reverse)) rest
      found.or (afterLabel? ('@' :: label) rest)
  | character :: rest =>
      if character = '\n' then none else afterLabel? (character :: label) rest

/-- The steps that a text stands for, if it stands for a number of them. -/
def ofText? (text : String) : Option (Except TargetError Steps) :=
  (afterLabel? [] text.toList).or (ofFront? none text.toList)

end Steps

/-- A name is split at its first at sign into a label, which may be empty, and the rest. -/
def splitLabel (text : String) : String × String :=
  let characters := text.toList
  match characters.dropWhile (· ≠ '@') with
  | [] => ("", text)
  | _ :: rest => (String.ofList (characters.takeWhile (· ≠ '@')), String.ofList rest)

/-- The revision that a text names by its key. -/
def keyed (text : String) : Except TargetError Revision :=
  match Revision.ofKey? text with
  | some revision => .ok revision
  | none => .error (.unknown text)

/-- The revision that a name stands for, or none for the empty schema. The label of a name
has to be a key. -/
def named (text : String) : Except TargetError (Option Revision) := do
  let (label, name) := splitLabel text
  if !label.isEmpty then let _ ← keyed label
  if name = "head" ∨ name = "heads" then return some Revision.head
  else if name = "base" then return none
  else if name.isEmpty then .error .unfounded
  else return some (← keyed name)

/-- What a label has to satisfy before anything is compared with it: where it asks for the
newest revision under a label of its own, that label has to exist. -/
def checkNewest (label : String) : Except TargetError Unit := do
  let (own, name) := splitLabel label
  if (name = "head" ∨ name = "heads") ∧ !own.isEmpty then let _ ← named own

/-- Where a walk along the revisions stands. -/
inductive Landing where
  /-- The empty schema by its name: the way up starts at the oldest revision, and the way
  down at the newest one. -/
  | base
  | upon (revision : Revision)
  /-- Below the oldest revision, at the end of a walk down. -/
  | bottom
  deriving DecidableEq, Repr

namespace Landing

/-- The landing at a position. -/
def ofPosition : Option Revision → Landing
  | none => base
  | some revision => .upon revision

/-- One step up. -/
def up? : Landing → Option Landing
  | base => some (.upon .initial)
  | .upon revision => revision.next?.map .upon
  | bottom => none

/-- One step down. -/
def down? : Landing → Option Landing
  | base => some (.upon Revision.head)
  | .upon revision => some (match revision.previous? with
      | some previous => .upon previous
      | none => bottom)
  | bottom => none

/-- So many steps of a kind, unless the way ends before. -/
def walk? (step? : Landing → Option Landing) : Nat → Landing → Option Landing
  | 0, landing => some landing
  | count + 1, landing =>
      match step? landing with
      | some next => walk? step? count next
      | none => none

/-- So many steps up. A label is looked at as soon as there is a step to take, and it has
to be a name. -/
def climb (label : Option String) (count : Nat) (landing : Landing) :
    Except TargetError (Option Landing) := do
  if let some label := label then
    if 0 < count then
      checkNewest label
      if landing.up?.isSome then let _ ← named label
  return walk? up? count landing

/-- The revision that a walk has to end at. -/
def revision : Option Landing → Except TargetError (Option Revision)
  | some (.upon revision) => .ok (some revision)
  | _ => .error .unfounded

end Landing

/-- A symbol with the label in front of it. -/
def labelled (label : Option String) (symbol : String) : String :=
  match label with
  | some label => label ++ "@" ++ symbol
  | none => symbol

namespace Steps

/-- Where steps of an upgrade lead. Without a symbol only the way up is open. -/
def raised (steps : Steps) (position : Option Revision) :
    Except TargetError (Option Revision) := do
  let count := steps.count.natAbs
  match steps.symbol with
  | none =>
      if 0 < steps.count then
        match ← (Landing.ofPosition position).climb steps.label count with
        | none =>
            if let some label := steps.label then let _ ← named label
            .error (.tooFewSteps steps.written count)
        | landing => Landing.revision landing
      else .error (.tooFewSteps (toString steps.count) count)
  | some symbol =>
      if 0 < steps.count then
        let start := Landing.ofPosition (← named symbol)
        Landing.revision (← start.climb steps.label count)
      else
        let start := Landing.ofPosition (← named (labelled steps.label symbol))
        Landing.revision (Landing.walk? Landing.down? count start)

/-- Where the way down from a landing leads: the empty schema is at its bottom. -/
def descended (count : Nat) (start : Landing) (tooFar : TargetError) :
    Except TargetError (Option Revision) :=
  match Landing.walk? Landing.down? count start with
  | some (.upon revision) => .ok (some revision)
  | some .bottom => .ok none
  | some .base | none => .error tooFar

/-- Where steps of a downgrade lead. Without a symbol only the way down is open. -/
def lowered (steps : Steps) (position : Option Revision) :
    Except TargetError (Option Revision) := do
  let count := steps.count.natAbs
  let tooFew := TargetError.tooFewSteps steps.written count
  match steps.symbol with
  | none =>
      if 0 ≤ steps.count then .error tooFew
      else match steps.label, position with
        | none, none => .error tooFew
        | none, some revision => descended count (.upon revision) tooFew
        | some label, none => do
            checkNewest label
            .error .unfounded
        | some label, some revision => do
            let _ ← named label
            let start := Landing.ofPosition (← named (labelled label revision.key))
            descended count start tooFew
  | some symbol =>
      if 0 ≤ steps.count then
        match ← (Landing.ofPosition (← named symbol)).climb steps.label count with
        | some (.upon revision) => return some revision
        | _ => .error .walkedTooFar
      else
        let start := Landing.ofPosition (← named (labelled steps.label symbol))
        descended count start .walkedTooFar

end Steps

/-- Where a name leads an upgrade. The empty schema is always below; a negative number
counts down from the newest revision, unless a label stands before it, which no revision
carries. -/
def raisedTo (text : String) : Except TargetError (Option Revision) := do
  let name := (splitLabel text).2
  if name = "base" then return none
  match Text.readInteger? name with
  | some number =>
      if 0 ≤ number then named text
      else if text.toList.contains '@' then return none
      else Landing.revision (Landing.walk? Landing.down? number.natAbs (.upon Revision.head))
  | none => named text

/-- Where a name leads a downgrade: what stands before its last at sign does not matter. -/
def loweredTo (text : String) : Except TargetError (Option Revision) :=
  named (String.ofList (text.toList.reverse.takeWhile (· ≠ '@')).reverse)

/-- The position that a target leads to, seen from a position. -/
def reached (direction : Direction) (position : Option Revision) (text : String) :
    Except TargetError (Option Revision) := do
  match Steps.ofText? text, direction with
  | some steps, .upgrade => (← steps).raised position
  | some steps, .downgrade => (← steps).lowered position
  | none, .upgrade => raisedTo text
  | none, .downgrade => loweredTo text

/-- The revisions to go through from a position to another one, in the order of the
steps. An upgrade to a lower position goes nowhere. -/
def stepsBetween (direction : Direction) (position reached : Option Revision) : List Revision :=
  match direction with
  | .upgrade => Revision.between position reached
  | .downgrade => (Revision.between reached position).reverse

/-- The revisions to go through from a position to a written target. -/
def route (direction : Direction) (position : Option Revision) (text : String) :
    Except TargetError (List Revision) := do
  let reached ← reached direction position text
  if direction = .downgrade ∧ Revision.rank position < Revision.rank reached then
    .error (.notBelow text)
  else
    .ok (stepsBetween direction position reached)

end Lookout.Schema
