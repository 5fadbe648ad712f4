import Lookout.Text.Integer
import Lookout.Text.Uppercase

/-!
# Settings

What can be set from the environment, and the bounds that cannot. A number that is not
written as one leaves its setting at the default.
-/

namespace Lookout

/-- The variables of an environment. -/
abbrev Environment := String → Option String

/-- The number that a variable holds, if it holds a written number. -/
def givenNumber? (text : Option String) : Option Int :=
  text.bind Text.readInteger?

/-- A number from a variable: its default unless the variable holds a written number. -/
def numberOr (fallback : Int) (text : Option String) : Int :=
  (givenNumber? text).getD fallback

/-- The settings of the service. -/
structure Settings where
  /-- Replies that failed so many times are not handed out for delivery any more. -/
  deliveryAttempts : Int := 25
  /-- The rounds of hashing that turn a user id into an account id. -/
  hashRounds : Int := 1
  /-- How many log records are kept back before they are stored. -/
  logBufferSize : Int := 128
  /-- The key of the lock that is held while the schema changes. -/
  migrationLock : Int := 7314
  /-- An invite expires so many days after it was made. -/
  inviteDays : Int := 1
  /-- An account made from an invite is valid for so many days. -/
  trialDays : Int := 7
  /-- The level of logging, in capitals. -/
  logLevel : String := "INFO"
  deriving DecidableEq, Repr

namespace Settings

/-- The fewest characters of a user id. -/
def userIdMin : Nat := 32

/-- The most characters of a user id, and as many as a drawn one has. -/
def userIdMax : Nat := 128

/-- The most characters of a token. -/
def tokenMax : Nat := 1024

/-- The characters of an invite id. -/
def inviteIdLength : Nat := 256

/-- The most invites of one call. -/
def invitesMax : Nat := 255

/-- The settings that an environment makes. -/
def ofEnvironment (environment : Environment) : Settings where
  deliveryAttempts := numberOr 25 (environment "THREADWATCH_MAX_DELIVERY_ATTEMPTS")
  hashRounds := numberOr 1 (environment "THREADWATCH_USER_ID_HASH_ITERATIONS")
  logBufferSize := numberOr 128 (environment "THREADWATCH_LOG_BUFFER_SIZE")
  migrationLock := numberOr 7314 (environment "THREADWATCH_MIGRATION_LOCK_KEY")
  inviteDays := numberOr 1 (environment "THREADWATCH_INVITE_LIFETIME_DAYS")
  trialDays := numberOr 7 (environment "THREADWATCH_TRIAL_PERIOD_DAYS")
  logLevel := Text.upper ((environment "LOG_LEVEL").getD "INFO")

end Settings

end Lookout
