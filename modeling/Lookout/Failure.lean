import Lookout.Account.Standing
import Lookout.Connection
import Lookout.Schema.Dialect
import Lookout.Schema.Target
import Lookout.Settings
import Lookout.Store.StoreError
import Lookout.Text.Masked
import Lookout.Value

/-!
# Failures

Why an operation fails. Every cause has one text and belongs to one kind; account ids and
tokens appear in a text in their masked form only.
-/

namespace Lookout

open Schema (TargetError)
open Text (masked)

/-- The kinds of failures. -/
inductive FailureKind where
  | value
  | type
  | overflow
  | environment
  | unsupported
  | command
  | integrity
  | statement
  | comparison
  | attribute
  | assertion
  /-- Any failure of the services themselves. -/
  | service
  /-- A write that the rules about keys rejected. -/
  | constraint
  | conflict
  | notFound
  | notValid
  | drift
  deriving DecidableEq, Repr

namespace FailureKind

/-- The kind that a kind of the services belongs to. -/
def parent? : FailureKind → Option FailureKind
  | conflict => some constraint
  | constraint | notFound | notValid | drift => some service
  | _ => none

/-- A kind and those it belongs to, the widest one last. -/
def family (kind : FailureKind) : List FailureKind :=
  match kind.parent? with
  | none => [kind]
  | some parent =>
      match parent.parent? with
      | none => [kind, parent]
      | some grandparent => [kind, parent, grandparent]

end FailureKind

/-- Why an operation fails. -/
inductive Failure where
  | store (error : StoreError)
  | span (error : Time.SpanError)
  | target (error : TargetError)
  | connection (error : ConnectionError)
  /-- A recorded checksum is not that of its revision. -/
  | drift (version : Int) (recorded expected : Option String)
  | noAccount (accountId : Option String)
  | noThread (id : Option Int)
  | noDescriptor (id : Option Int)
  | noReply (id : Option Int)
  | noReplyParent (account descriptor replyTo : Option Int)
  | noWatchParent (account descriptor : Option Int)
  /-- Another account holds the token. -/
  | tokenTaken (token : Option String)
  /-- The store has no room for the token. -/
  | slotRefused (token accountId : Option String)
  | accountDeleted (accountId : Option String)
  | lapsed (lapse : Lapse)
  | userIdLength (length : Nat)
  | tokenLength (length : Nat)
  | inviteAmount (amount : Int)
  | tooFewRounds (rounds : Int)
  | unknownLevel (name : String)
  /-- A level of logging is neither a number nor a name; its text as messages show it. -/
  | unfitLevel (shown : String)
  | unsupportedDialect (name : Option String)
  | incomparable (error : Incomparable)
  /-- A value does not convert to a whole number. -/
  | notInteger (error : IntegerError)
  /-- Values of two kinds have no order. -/
  | unordered (relation left right : String)
  /-- A value of this kind has no elements. -/
  | notList (kind : String)
  /-- A list has fewer elements than are needed. -/
  | tooFewElements (wanted given : Nat)
  /-- A list has more elements than are needed. -/
  | tooManyElements (wanted : Nat)
  /-- A value of this kind has no elements, but a fixed number of them is needed. -/
  | noElements (kind : String)
  /-- A text is missing whose length is needed. -/
  | nullText
  /-- The bytes are missing that a digest is made of. -/
  | nullBytes
  /-- A bound of a comparison inside a query is missing. -/
  | nullBound
  /-- Something is missing of which an attribute is needed. -/
  | nothingHas (part : String)
  /-- Every text that was drawn is in use. -/
  | drawsExhausted
  deriving DecidableEq, Repr

/-- What is wrong with a span of days. -/
def Time.SpanError.message : Time.SpanError → String
  | beyondWord => "Python int too large to convert to C int"
  | tooManyDays days => s!"days={days}; must have magnitude <= {Time.maxSpanDays}"
  | outOfRange => "date value out of range"

namespace Failure

/-- A number in a message; a missing one shows as `None`. -/
def shown : Option Int → String
  | some number => toString number
  | none => "None"

/-- What is wrong where a recorded checksum is not the expected one. -/
def driftText (version recorded expected : Value) : String :=
  s!"Migration {version.plain} checksum mismatch: recorded {recorded.shown}, " ++
    s!"expected {expected.shown}"

/-- What is wrong, in words. -/
def message : Failure → String
  | store error => error.message
  | span error => error.message
  | target error => error.message
  | connection error => error.message
  | drift version recorded expected =>
      driftText (.integer version) (.ofText? recorded) (.ofText? expected)
  | noAccount accountId => s!"Account {masked accountId} does not exist"
  | noThread id => s!"Thread {shown id} does not exist"
  | noDescriptor id => s!"Post descriptor {shown id} does not exist"
  | noReply id => s!"Post reply {shown id} does not exist"
  | noReplyParent account descriptor replyTo =>
      s!"Cannot record reply {shown descriptor} -> {shown replyTo} for account {shown account}: " ++
        "referenced row does not exist"
  | noWatchParent account descriptor =>
      s!"Cannot watch post descriptor {shown descriptor} for account {shown account}: " ++
        "referenced row does not exist"
  | tokenTaken token => s!"Token {masked token} is already registered to another account"
  | slotRefused token accountId =>
      s!"Token {masked token} could not be registered for account {masked accountId}"
  | accountDeleted accountId => s!"Account {masked accountId} is deleted"
  | lapsed lapse => lapse.message
  | userIdLength length =>
      s!"Bad user_id length {length} must be within " ++
        s!"{Settings.userIdMin}..{Settings.userIdMax} symbols"
  | tokenLength length => s!"Bad token length {length} must be within 1..{Settings.tokenMax}"
  | inviteAmount amount => s!"Bad amount {amount} must be within 0..{Settings.invitesMax}"
  | tooFewRounds rounds => s!"iterations must be >= 1, got {rounds}"
  | unknownLevel name => s!"Unknown level: {Text.quoted name}"
  | unfitLevel shown => s!"Level not an integer or a valid string: {shown}"
  | unsupportedDialect name => Schema.Dialect.unsupported name
  | incomparable _ => "can't compare offset-naive and offset-aware datetimes"
  | notInteger error => error.message
  | unordered relation left right =>
      s!"'{relation}' not supported between instances of '{left}' and '{right}'"
  | notList kind => s!"'{kind}' object is not iterable"
  | tooFewElements wanted given =>
      s!"not enough values to unpack (expected {wanted}, got {given})"
  | tooManyElements wanted => s!"too many values to unpack (expected {wanted})"
  | noElements kind => s!"cannot unpack non-iterable {kind} object"
  | nullText => "object of type 'NoneType' has no len()"
  | nullBytes => "object supporting the buffer API required"
  | nullBound =>
      "Only '=', '!=', 'is_()', 'is_not()', 'is_distinct_from()', 'is_not_distinct_from()' " ++
        "operators can be used with None/True/False"
  | nothingHas part => s!"'NoneType' object has no attribute '{part}'"
  | drawsExhausted => "every drawn text is in use"

/-- The kind of a failure of a target. -/
def targetKind : TargetError → FailureKind
  | .unfounded => .assertion
  | .unread _ | .tooManyParts => .value
  | .missing => .type
  | .noStart => .attribute
  | _ => .command

/-- The kind of a failure to convert a value. -/
def integerKind : IntegerError → FailureKind
  | .numeral _ | .undefined => .value
  | .unfit _ => .type
  | .infinite => .overflow

/-- The kind of a failure. -/
def kind : Failure → FailureKind
  | store .numberTooLarge => .overflow
  | store error => if error.isIntegrity then .integrity else .statement
  | span _ => .overflow
  | target error => targetKind error
  | connection _ | drawsExhausted => .environment
  | drift .. => .drift
  | noAccount _ | noThread _ | noDescriptor _ | noReply _ | noReplyParent .. | noWatchParent .. =>
      .notFound
  | tokenTaken _ | slotRefused .. => .conflict
  | accountDeleted _ | lapsed _ => .notValid
  | userIdLength _ | tokenLength _ | inviteAmount _ | tooFewRounds _ | unknownLevel _
  | tooFewElements .. | tooManyElements _ => .value
  | unsupportedDialect _ => .unsupported
  | notInteger error => integerKind error
  | incomparable _ | unordered .. | notList _ | noElements _ | nullText | nullBytes
  | unfitLevel _ => .type
  | nullBound => .comparison
  | nothingHas _ => .attribute

end Failure

end Lookout
