import Lookout.Account.Identity
import Lookout.Proofs.TextBytes

/-!
# Rounds of hashing

The first round hashes a value as bytes, each later one the digest before it as text. Rounds can
therefore be done in one go or in two, and an account id that was derived with fewer rounds becomes
the id for more of them when the stored text is hashed further.
-/

namespace Lookout

namespace Digest

/-- Bytes hashed a number of rounds in all are the digest of the bytes, hashed one time less. -/
theorem ofGiven_bytes {rounds : Int} (positive : 1 ≤ rounds) (bytes : ByteArray) :
    ofGiven (some bytes) (some rounds) = .ok (rehash (rounds - 1).toNat (ofBytes bytes)) := by
  simp [ofGiven, rounds?, Int.not_lt.mpr positive]

/-- A text is hashed as often as there are rounds, the first time too. -/
theorem ofTextRounds_eq_rehash {rounds : Int} (positive : 1 ≤ rounds) (text : String) :
    ofTextRounds text rounds = .ok (rehash rounds.toNat text) := by
  have counted : rounds.toNat = (rounds - 1).toNat + 1 := by omega
  rw [ofTextRounds, ofGiven_bytes positive, counted, rehash, ofText]

/-- The bytes of a text are the UTF-8 codes of its characters in their order. -/
theorem ofTextRounds_eq_ofGiven (text : String) (rounds : Int) :
    ofTextRounds text rounds =
      ofGiven (some (text.toList.flatMap String.utf8EncodeChar).toByteArray) (some rounds) := by
  rw [ofTextRounds, Text.toUTF8_eq]

/-- Further rounds over the digest of some rounds make the digest of all of them. -/
theorem ofGiven_add {first further : Int} (positive : 1 ≤ first) (more : 1 ≤ further)
    (bytes : ByteArray) :
    ∃ digest final, ofGiven (some bytes) (some first) = .ok digest ∧
      ofTextRounds digest further = .ok final ∧
      ofGiven (some bytes) (some (first + further)) = .ok final := by
  refine ⟨_, _, ofGiven_bytes positive bytes, ofTextRounds_eq_rehash more _, ?_⟩
  have total : (first + further - 1).toNat = (first - 1).toNat + further.toNat := by omega
  rw [ofGiven_bytes (by omega), total, rehash_add]

end Digest

/-- The account id of a user id that is neither too short nor too long is its digest. -/
theorem Account.idOfUserId_eq_ofTextRounds (settings : Settings) {userId : String}
    (longEnough : 32 ≤ userId.length) (shortEnough : userId.length ≤ 128) :
    Account.idOfUserId settings (some userId) =
      Digest.ofTextRounds userId settings.hashRounds :=
  if_pos ⟨longEnough, shortEnough⟩

/-- Rounds compose. Hashing bytes or a text, which stands for its UTF-8 bytes, so many rounds and
then so many more always succeeds and gives what all the rounds at once give. So the account id
under more configured rounds is what the further rounds make of the account id under fewer. -/
theorem Digest.rounds_compose {first further : Int} (positive : 1 ≤ first) (more : 1 ≤ further) :
    (∀ bytes : ByteArray, ∃ digest final,
      ofGiven (some bytes) (some first) = .ok digest ∧
      ofTextRounds digest further = .ok final ∧
      ofGiven (some bytes) (some (first + further)) = .ok final) ∧
    (∀ text : String,
      (∀ rounds, ofTextRounds text rounds =
        ofGiven (some (text.toList.flatMap String.utf8EncodeChar).toByteArray) (some rounds)) ∧
      ∃ digest final, ofTextRounds text first = .ok digest ∧
        ofTextRounds digest further = .ok final ∧
        ofTextRounds text (first + further) = .ok final) ∧
    ∀ (settings : Settings) (userId : String), 32 ≤ userId.length → userId.length ≤ 128 →
      ∃ accountId migrated,
        Account.idOfUserId { settings with hashRounds := first } (some userId) = .ok accountId ∧
        ofTextRounds accountId further = .ok migrated ∧
        Account.idOfUserId { settings with hashRounds := first + further } (some userId) =
          .ok migrated := by
  have ofBytes (bytes : ByteArray) := ofGiven_add positive more bytes
  refine ⟨ofBytes, fun text => ⟨ofTextRounds_eq_ofGiven text, ofBytes text.toUTF8⟩, ?_⟩
  intro settings userId longEnough shortEnough
  rw [Account.idOfUserId_eq_ofTextRounds _ longEnough shortEnough,
    Account.idOfUserId_eq_ofTextRounds _ longEnough shortEnough]
  exact ofBytes userId.toUTF8

/-- From one round to three: two further rounds over the stored id. -/
theorem Digest.rounds_compose_thrice :
    (1 : Int) ≤ 1 ∧ (1 : Int) ≤ 2 ∧ 32 ≤ "0123456789abcdef0123456789abcdef".length ∧
      "0123456789abcdef0123456789abcdef".length ≤ 128 ∧
      ∃ accountId migrated,
        Account.idOfUserId { hashRounds := 1 } (some "0123456789abcdef0123456789abcdef") =
          .ok accountId ∧
        ofTextRounds accountId 2 = .ok migrated ∧
        Account.idOfUserId { hashRounds := 3 } (some "0123456789abcdef0123456789abcdef") =
          .ok migrated :=
  have longEnough : 32 ≤ "0123456789abcdef0123456789abcdef".length := by decide
  have shortEnough : "0123456789abcdef0123456789abcdef".length ≤ 128 := by decide
  ⟨by decide, by decide, longEnough, shortEnough,
    (Digest.rounds_compose (by decide) (by decide)).2.2 {} _ longEnough shortEnough⟩

/-- What a single round makes of a text is its SHA3-512 digest. -/
example : Digest.ofText "abc" =
    "b751850b1a57168a5693cd924b6b096e08f621827444f70d884f5d0240d2712e" ++
      "10e116e9192af3c91a7ec57647e3934057340b4cf408d5a56592f8274eec53f0" := by
  decide +kernel

end Lookout
