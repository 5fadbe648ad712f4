import Lookout.Digest
import Lookout.Failure

/-!
# Account ids

A client knows its user id; the store knows only the account id, which is the hash of it
after the configured number of rounds.
-/

namespace Lookout

/-- The digest of bytes after a number of rounds, where both may be missing. -/
def Digest.ofGiven (bytes : Option ByteArray) (rounds : Option Int) : Except Failure String :=
  match rounds, bytes with
  | none, _ => .error (.unordered "<" "NoneType" "int")
  | some rounds, some bytes =>
      match Digest.rounds? bytes rounds with
      | some digest => .ok digest
      | none => .error (.tooFewRounds rounds)
  | some rounds, none => .error (if rounds < 1 then .tooFewRounds rounds else .nullBytes)

/-- A text hashed a number of rounds, of which there must be one. -/
def Digest.ofTextRounds (text : String) (rounds : Int) : Except Failure String :=
  Digest.ofGiven (some text.toUTF8) (some rounds)

/-- The account id of a user id. -/
def Account.idOfUserId (settings : Settings) : Option String → Except Failure String
  | none => .error .nullText
  | some userId =>
      if Settings.userIdMin ≤ userId.length ∧ userId.length ≤ Settings.userIdMax then
        Digest.ofTextRounds userId settings.hashRounds
      else .error (.userIdLength userId.length)

end Lookout
