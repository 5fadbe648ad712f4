import Lookout.Digest.Sponge

/-!
# Digests

Hexadecimal SHA3-512 digests of bytes and of texts, and repeated hashing: the first
round takes the value itself, each later round the digest before it as text.
-/

namespace Lookout.Digest

/-- A lower-case hexadecimal digit. -/
def hexDigit (value : Nat) : Char :=
  if value < 10 then Char.ofNat (0x30 + value) else Char.ofNat (0x57 + value)

/-- Bytes in lower-case hexadecimal. -/
def hex (bytes : List UInt8) : String :=
  String.ofList (bytes.flatMap fun byte => [hexDigit (byte.toNat / 16), hexDigit (byte.toNat % 16)])

/-- The digest of bytes. -/
def ofBytes (bytes : ByteArray) : String :=
  hex (sponge bytes.data)

/-- The digest of a text, which is that of its UTF-8 bytes. -/
def ofText (text : String) : String :=
  ofBytes text.toUTF8

/-- Hash a digest a number of further times. -/
def rehash : Nat → String → String
  | 0, digest => digest
  | rounds + 1, digest => rehash rounds (ofText digest)

/-- The digest of bytes after a number of rounds in all, of which there must be one. -/
def rounds? (bytes : ByteArray) (rounds : Int) : Option String :=
  if rounds < 1 then none else some (rehash (rounds - 1).toNat (ofBytes bytes))

/-- Further rounds compose. -/
theorem rehash_add (first second : Nat) (digest : String) :
    rehash (first + second) digest = rehash second (rehash first digest) := by
  induction first generalizing digest with
  | zero => simp [rehash]
  | succ first inductionHypothesis =>
      rw [Nat.succ_add]
      exact inductionHypothesis (ofText digest)

end Lookout.Digest
