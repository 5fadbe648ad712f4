/-!
# Bytes of texts

A text is stored as the UTF-8 bytes of its characters in their order, and is got back from them. The
bytes of characters outside the ASCII range all have their highest bit set, so the byte of a space
belongs to nothing but a space.
-/

namespace Lookout.Text

/-- The bytes of a text are the UTF-8 bytes of its characters in their order. -/
theorem toUTF8_eq (text : String) :
    text.toUTF8 = (text.toList.flatMap String.utf8EncodeChar).toByteArray := by
  change text.toByteArray = text.toList.utf8Encode
  rw [← String.toByteArray_ofList, String.ofList_toList]

theorem fromUTF8?_toUTF8 (text : String) : String.fromUTF8? text.toUTF8 = some text :=
  dif_pos text.isValidUTF8

/-- A list of the bytes of an array, from a position on. -/
theorem toList_loop (bytes : ByteArray) (position : Nat) (front : List UInt8) :
    ByteArray.toList.loop bytes position front =
      front.reverse ++ bytes.data.toList.drop position := by
  fun_induction ByteArray.toList.loop bytes position front with
  | case1 position front inside inductionHypothesis =>
      have isByte : bytes.get! position = bytes.data.toList[position] := by
        obtain ⟨data⟩ := bytes
        exact (getElem!_pos data position inside).trans (Array.getElem_toList _).symm
      rw [inductionHypothesis, List.drop_eq_getElem_cons inside, isByte]
      simp
  | case2 position front outside =>
      have ended : bytes.data.toList.length ≤ position := Nat.le_of_not_lt outside
      rw [List.drop_eq_nil_of_le ended, List.append_nil]

/-- The bytes of a text as a list. -/
theorem toList_toUTF8 (text : String) :
    text.toUTF8.toList = text.toList.flatMap String.utf8EncodeChar := by
  rw [toUTF8_eq, ByteArray.toList, toList_loop, List.toList_data_toByteArray]
  simp

/-- The bytes of a character that is not ASCII are not those of ASCII characters. -/
theorem high_of_mem_utf8EncodeChar {character : Char} {byte : UInt8}
    (isWide : ¬ character.val.toNat ≤ 0x7f) (isByte : byte ∈ String.utf8EncodeChar character) :
    0x80 ≤ byte.toNat := by
  simp only [String.utf8EncodeChar, isWide, if_false] at isByte
  -- One case for each length of the code.
  split at isByte
  · simp only [List.mem_cons, List.not_mem_nil, or_false] at isByte
    rcases isByte with rfl | rfl <;> rw [UInt8.toNat_ofNat'] <;> omega
  · split at isByte
    · simp only [List.mem_cons, List.not_mem_nil, or_false] at isByte
      rcases isByte with rfl | rfl | rfl <;> rw [UInt8.toNat_ofNat'] <;> omega
    · simp only [List.mem_cons, List.not_mem_nil, or_false] at isByte
      rcases isByte with rfl | rfl | rfl | rfl <;> rw [UInt8.toNat_ofNat'] <;> omega

/-- Only the space has the byte of the space among its own. -/
theorem eq_space_of_mem_utf8EncodeChar {character : Char}
    (isByte : 0x20 ∈ String.utf8EncodeChar character) : character = ' ' := by
  by_cases isAscii : character.val.toNat ≤ 0x7f
  · simp only [String.utf8EncodeChar, isAscii, if_true, List.mem_singleton] at isByte
    have sameCode := congrArg UInt8.toNat isByte
    rw [UInt8.toNat_ofNat_of_lt' (Nat.lt_of_le_of_lt isAscii (by decide))] at sameCode
    exact Char.toNat_inj.mp sameCode.symm
  · exact absurd (high_of_mem_utf8EncodeChar isAscii isByte) (by decide)

end Lookout.Text
