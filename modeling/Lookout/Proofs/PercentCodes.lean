import Mathlib.Data.List.Basic
import Lookout.Proofs.TextBytes
import Lookout.Text.Percent

/-!
# Percent codes

A text with percent codes stands for the bytes that the codes name and for the UTF-8 bytes of all
its other characters. Form encoding writes as codes whatever is not unreserved, spaces apart, which
become plus signs. Whoever reads its plus signs as spaces gets every text back; whoever decodes only
the codes keeps a plus sign in the place of each space.
-/

namespace Lookout.Text

/-- The value of a hexadecimal digit of either case. -/
def hexDigitValue? (character : Char) : Option Nat :=
  let code := character.toNat
  if 0x30 ≤ code ∧ code ≤ 0x39 then some (code - 0x30)
  else if 0x41 ≤ code ∧ code ≤ 0x46 then some (code - 0x37)
  else if 0x61 ≤ code ∧ code ≤ 0x66 then some (code - 0x57)
  else none

/-- The bytes that a text with percent codes stands for. A percent sign without two hexadecimal
digits behind it stands for itself. -/
def percentBytes : List Char → List UInt8
  | [] => []
  | '%' :: high :: low :: rest =>
      match hexDigitValue? high, hexDigitValue? low with
      | some upper, some lower => UInt8.ofNat (16 * upper + lower) :: percentBytes rest
      | _, _ => String.utf8EncodeChar '%' ++ percentBytes (high :: low :: rest)
  | character :: rest => String.utf8EncodeChar character ++ percentBytes rest

/-- The text that a text with percent codes stands for, if its bytes are UTF-8. -/
def percentDecoded? (text : String) : Option String :=
  String.fromUTF8? (percentBytes text.toList).toByteArray

/-- One character in place of another. -/
def exchange (unwanted wanted : Char) (character : Char) : Char :=
  if character = unwanted then wanted else character

/-- A text with one character in place of another. -/
def replaced (unwanted wanted : Char) (text : String) : String :=
  text.map (exchange unwanted wanted)

@[simp]
theorem exchange_self (character : Char) : exchange character character = id := by
  funext other
  by_cases same : other = character <;> simp [exchange, same]

@[simp]
theorem replaced_self (character : Char) (text : String) :
    replaced character character text = text := by
  simp [replaced]

/-- A text is the same with another character in place of one exactly if it does not hold that
one. -/
theorem replaced_eq_self_iff {unwanted wanted : Char} (differ : wanted ≠ unwanted)
    (text : String) : replaced unwanted wanted text = text ↔ unwanted ∉ text.toList := by
  have isMap : replaced unwanted wanted text = text ↔
      ∀ character ∈ text.toList, exchange unwanted wanted character = id character := by
    rw [← List.map_inj_left, List.map_id, ← String.toList_inj, replaced, String.toList_map]
  rw [isMap]
  constructor
  · intro same isHeld
    exact differ (by simpa [exchange] using same unwanted isHeld)
  · intro absent character isHeld
    have other : character ≠ unwanted := by
      rintro rfl
      exact absent isHeld
    simp [exchange, other]

theorem hexDigitValue?_upperHexDigit :
    ∀ value < 16, hexDigitValue? (upperHexDigit value) = some value := by
  decide

theorem upperHexDigit_ne_plus : ∀ value < 16, upperHexDigit value ≠ '+' := by
  decide

/-- Unreserved bytes stand for themselves, and none of them is a percent or a plus sign. -/
theorem utf8EncodeChar_of_isUnreserved {byte : UInt8} (unreserved : isUnreserved byte = true) :
    String.utf8EncodeChar (Char.ofNat byte.toNat) = [byte] ∧ Char.ofNat byte.toNat ≠ '%' ∧
      Char.ofNat byte.toNat ≠ '+' := by
  have each : ∀ code < 256, isUnreserved (UInt8.ofNat code) = true →
      String.utf8EncodeChar (Char.ofNat code) = [UInt8.ofNat code] ∧ Char.ofNat code ≠ '%' ∧
        Char.ofNat code ≠ '+' := by
    decide +kernel
  simpa using each byte.toNat byte.toNat_lt (by simpa using unreserved)

theorem percentBytes_cons {character : Char} (plain : character ≠ '%') (rest : List Char) :
    percentBytes (character :: rest) = String.utf8EncodeChar character ++ percentBytes rest := by
  rw [percentBytes]
  exact fun _ _ _ isPercent _ => plain isPercent

theorem percentBytes_code (byte : UInt8) (rest : List Char) :
    percentBytes
        ('%' :: upperHexDigit (byte.toNat / 16) :: upperHexDigit (byte.toNat % 16) :: rest) =
      byte :: percentBytes rest := by
  have isByte : byte.toNat < 256 := byte.toNat_lt
  have whole : 16 * (byte.toNat / 16) + byte.toNat % 16 = byte.toNat := Nat.div_add_mod _ _
  simp [percentBytes, hexDigitValue?_upperHexDigit (byte.toNat / 16) (by omega),
    hexDigitValue?_upperHexDigit (byte.toNat % 16) (by omega), whole]

/-- What a byte of a form-encoded text stands for, when its plus signs are read as some other
character. -/
def byteRead (wanted : Char) (byte : UInt8) : List UInt8 :=
  if byte = 0x20 then String.utf8EncodeChar wanted else [byte]

/-- A form-encoded byte is read as it was written, and a space as whatever a plus sign is read
as. -/
theorem percentBytes_formEncodeByte {wanted : Char} (isPlain : wanted ≠ '%') (byte : UInt8)
    (rest : List Char) :
    percentBytes ((formEncodeByte byte).map (exchange '+' wanted) ++ rest) =
      byteRead wanted byte ++ percentBytes rest := by
  unfold formEncodeByte byteRead
  split
  next unreserved =>
    obtain ⟨isItself, notPercent, notPlus⟩ := utf8EncodeChar_of_isUnreserved unreserved
    have notSpace : byte ≠ 0x20 := by
      rintro rfl
      cases unreserved
    simp [exchange, notPlus, notSpace, percentBytes_cons notPercent, isItself]
  next =>
    split
    · simp [exchange, percentBytes_cons isPlain]
    · have isByte : byte.toNat < 256 := byte.toNat_lt
      simp [exchange, upperHexDigit_ne_plus (byte.toNat / 16) (by omega),
        upperHexDigit_ne_plus (byte.toNat % 16) (by omega), percentBytes_code]

theorem percentBytes_formEncodeBytes {wanted : Char} (isPlain : wanted ≠ '%')
    (bytes : List UInt8) :
    percentBytes ((bytes.flatMap formEncodeByte).map (exchange '+' wanted)) =
      bytes.flatMap (byteRead wanted) := by
  induction bytes with
  | nil => rfl
  | cons byte bytes inductionHypothesis =>
      rw [List.flatMap_cons, List.map_append, percentBytes_formEncodeByte isPlain,
        inductionHypothesis, List.flatMap_cons]

/-- The bytes of a character are read as those of the character, or of the one for a space. -/
theorem flatMap_byteRead (wanted character : Char) :
    (String.utf8EncodeChar character).flatMap (byteRead wanted) =
      String.utf8EncodeChar (exchange ' ' wanted character) := by
  by_cases isSpace : character = ' '
  · subst isSpace
    simp [exchange, byteRead, String.utf8EncodeChar]
  · have same : ∀ byte ∈ String.utf8EncodeChar character, byteRead wanted byte = [byte] := by
      intro byte isByte
      have notSpace : byte ≠ 0x20 := by
        rintro rfl
        exact isSpace (eq_space_of_mem_utf8EncodeChar isByte)
      exact if_neg notSpace
    rw [List.flatMap_congr same]
    simp [exchange, isSpace]

/-- A form-encoded text whose plus signs are read as some character is read as the text with that
character in the place of its spaces. -/
theorem percentDecoded?_formEncode {wanted : Char} (isPlain : wanted ≠ '%') (text : String) :
    percentDecoded? (replaced '+' wanted (formEncode text)) = some (replaced ' ' wanted text) := by
  have isRead : percentBytes (replaced '+' wanted (formEncode text)).toList =
      (replaced ' ' wanted text).toList.flatMap String.utf8EncodeChar := by
    rw [replaced, String.toList_map, formEncode, String.toList_ofList,
      percentBytes_formEncodeBytes isPlain, toList_toUTF8, List.flatMap_assoc, replaced,
      String.toList_map, List.flatMap_map]
    exact List.flatMap_congr fun character _ => flatMap_byteRead wanted character
  rw [percentDecoded?, isRead, ← toUTF8_eq, fromUTF8?_toUTF8]

/-- Different texts are encoded differently, since plus signs are codes and spaces are not. -/
theorem formEncode_injective {first second : String}
    (same : formEncode first = formEncode second) : first = second := by
  have isRead := percentDecoded?_formEncode (by decide : ' ' ≠ '%') first
  rw [same, percentDecoded?_formEncode (by decide), replaced_self, replaced_self] at isRead
  exact (Option.some.inj isRead).symm

end Lookout.Text
