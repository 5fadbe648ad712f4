/-!
# Form encoding

A text inside a URL: unreserved characters stand for themselves, a space is a plus
sign, and every other character is written as the percent codes of its UTF-8 bytes.
-/

namespace Lookout.Text

/-- Whether a byte stands for itself: letters, digits, `_`, `.`, `-` and `~`. -/
def isUnreserved (byte : UInt8) : Bool :=
  let code := byte.toNat
  (0x41 ≤ code && code ≤ 0x5a) || (0x61 ≤ code && code ≤ 0x7a) || (0x30 ≤ code && code ≤ 0x39) ||
    code == 0x5f || code == 0x2e || code == 0x2d || code == 0x7e

/-- An upper-case hexadecimal digit. -/
def upperHexDigit (value : Nat) : Char :=
  if value < 10 then Char.ofNat (0x30 + value) else Char.ofNat (0x37 + value)

/-- One byte of a form-encoded text. -/
def formEncodeByte (byte : UInt8) : List Char :=
  if isUnreserved byte then [Char.ofNat byte.toNat]
  else if byte = 0x20 then ['+']
  else ['%', upperHexDigit (byte.toNat / 16), upperHexDigit (byte.toNat % 16)]

/-- A text in form encoding. -/
def formEncode (text : String) : String :=
  String.ofList (text.toUTF8.toList.flatMap formEncodeByte)

end Lookout.Text
