import Mathlib.Data.List.DropRight
import Mathlib.Data.Nat.Digits.Defs
import Lookout.Settings

/-!
# Numerals

A numeral is a text that writes a number: white space, at most one sign, decimal digits of any
script with single underscores between them, and white space again. A setting reads exactly the
numerals of at most 4300 digits, at their decimal value, and takes every other text for none at all.
So a number is read back however it was laid out.
-/

namespace Lookout

namespace Text

/-- What may stand in front of the digits of a number. -/
inductive Sign where
  | unsigned
  | plus
  | minus
  deriving DecidableEq, Repr

namespace Sign

/-- A sign in a text. -/
def written : Sign → List Char
  | unsigned => []
  | plus => ['+']
  | minus => ['-']

/-- What a sign makes of the number behind it. -/
def factor : Sign → Int
  | minus => -1
  | _ => 1

end Sign

/-- One or more decimal digits of any script, with at most one underscore between two of them, and
the values of the digits. -/
inductive IsDigits : List Char → List Nat → Prop where
  | last {character : Char} {value : Nat} (digit : digitValue? character = some value) :
      IsDigits [character] [value]
  | next {character : Char} {value : Nat} {text : List Char} {values : List Nat}
      (digit : digitValue? character = some value) (isDigits : IsDigits text values) :
      IsDigits (character :: text) (value :: values)
  | spaced {character : Char} {value : Nat} {text : List Char} {values : List Nat}
      (digit : digitValue? character = some value) (isDigits : IsDigits text values) :
      IsDigits (character :: '_' :: text) (value :: values)

/-- The parts of a written number. -/
structure Numeral where
  before : List Char
  sign : Sign
  digits : List Char
  values : List Nat
  after : List Char
  isBlank_before : ∀ character ∈ before, isBlank character = true
  isBlank_after : ∀ character ∈ after, isBlank character = true
  isDigits : IsDigits digits values
  length_le : values.length ≤ 4300

namespace Numeral

/-- The text of a written number. -/
def text (numeral : Numeral) : String :=
  String.ofList (numeral.before ++ (numeral.sign.written ++ numeral.digits) ++ numeral.after)

/-- The decimal value of a written number. -/
def value (numeral : Numeral) : Int :=
  numeral.sign.factor * (Nat.ofDigits 10 numeral.values.reverse : Nat)

end Numeral

/-- A digit is no white space. -/
theorem isBlank_eq_false_of_digitValue? {character : Char} {value : Nat}
    (digit : digitValue? character = some value) : isBlank character = false := by
  have apart : ∀ base ∈ digitZeros, ∀ offset < 10,
      isBlank (Char.ofNat (base + offset)) = false := by
    decide +kernel
  obtain ⟨base, found, -⟩ := Option.map_eq_some_iff.1 digit
  have inRun := List.find?_some found
  simp only [Bool.and_eq_true, decide_eq_true_eq] at inRun
  have isOffset := apart base (List.mem_of_find?_eq_some found) (character.toNat - base) (by omega)
  rwa [Nat.add_sub_cancel' inRun.1, Char.ofNat_toNat] at isOffset

theorem digitValue?_underscore : digitValue? '_' = none := by decide

theorem digitValue?_plus : digitValue? '+' = none := by decide

theorem digitValue?_minus : digitValue? '-' = none := by decide

/-- The digits of the ASCII range have their usual values. -/
theorem digitValue?_of_isDigit {character : Char} (isDigit : character.isDigit = true) :
    digitValue? character = some (character.toNat - 48) := by
  simp only [Char.isDigit, Bool.and_eq_true, decide_eq_true_eq, ge_iff_le,
    UInt32.le_iff_toNat_le] at isDigit
  have inRun : (48 ≤ character.toNat && character.toNat < 48 + 10) = true := by
    simp only [Bool.and_eq_true, decide_eq_true_eq]
    exact ⟨isDigit.1, Nat.lt_succ_of_le isDigit.2⟩
  simp [digitValue?, digitZeros, inRun]

namespace IsDigits

variable {text : List Char} {values : List Nat}

/-- Digits begin with one. -/
theorem exists_head (isDigits : IsDigits text values) :
    ∃ character rest value, text = character :: rest ∧ digitValue? character = some value := by
  cases isDigits with
  | last digit => exact ⟨_, _, _, rfl, digit⟩
  | next digit _ => exact ⟨_, _, _, rfl, digit⟩
  | spaced digit _ => exact ⟨_, _, _, rfl, digit⟩

theorem values_ne_nil (isDigits : IsDigits text values) : values ≠ [] := by
  cases isDigits <;> exact List.cons_ne_nil _ _

/-- No white space stands among digits. -/
theorem isBlank_eq_false (isDigits : IsDigits text values) :
    ∀ character ∈ text, isBlank character = false := by
  induction isDigits with
  | last digit => simpa using isBlank_eq_false_of_digitValue? digit
  | next digit _ inductionHypothesis =>
      simpa [isBlank_eq_false_of_digitValue? digit] using inductionHypothesis
  | spaced digit _ inductionHypothesis =>
      have plain : isBlank '_' = false := by decide
      simpa [isBlank_eq_false_of_digitValue? digit, plain] using inductionHypothesis

/-- Digits are read to their end. -/
theorem digitRun_eq (isDigits : IsDigits text values) : digitRun text = (values, []) := by
  induction isDigits with
  | last digit => simp [digitRun, digit]
  | next digit isDigits inductionHypothesis =>
      -- The next character is a digit, so no underscore is skipped here.
      obtain ⟨following, rest, value, rfl, isDigit⟩ := isDigits.exists_head
      have notUnderscore : following ≠ '_' := by
        rintro rfl
        simp [digitValue?_underscore] at isDigit
      rw [digitRun]
      · simp [digit, inductionHypothesis]
      · rintro _ _ ⟨rfl, -⟩
        exact notUnderscore rfl
  | spaced digit isDigits inductionHypothesis =>
      obtain ⟨following, rest, value, rfl, isDigit⟩ := isDigits.exists_head
      simp [digitRun, digit, isDigit, inductionHypothesis]

end IsDigits

/-- Where reading digits comes to the end of a text, the text is empty or digits. -/
theorem eq_nil_or_isDigits_of_digitRun (text : List Char) {values : List Nat}
    (isRead : digitRun text = (values, [])) : text = [] ∧ values = [] ∨ IsDigits text values := by
  fun_induction digitRun text generalizing values with
  | case1 =>
      cases isRead
      exact .inl ⟨rfl, rfl⟩
  | case2 _ _ _ _ _ _ digit _ _ further inductionHypothesis =>
      cases isRead
      obtain ⟨impossible, -⟩ | isDigits := inductionHypothesis further
      · cases impossible
      · exact .inr (.spaced digit isDigits)
  | case3 | case4 | case6 => cases isRead
  | case5 _ _ _ _ digit _ _ further inductionHypothesis =>
      cases isRead
      obtain ⟨rfl, rfl⟩ | isDigits := inductionHypothesis further
      · exact .inr (.last digit)
      · exact .inr (.next digit isDigits)

/-- The decimal value of digits, counted from the least significant one. -/
theorem ofDigits_eq (values : List Nat) : ofDigits values = Nat.ofDigits 10 values.reverse := by
  rw [Nat.ofDigits_eq_foldr, List.foldr_reverse]
  simp [ofDigits, Nat.add_comm]

/-- The sign in front of digits is split off. -/
theorem splitSign_append {sign : Sign} {digits : List Char} {values : List Nat}
    (isDigits : IsDigits digits values) :
    splitSign (sign.written ++ digits) = (sign.factor, digits) := by
  cases sign with
  | plus => rfl
  | minus => rfl
  | unsigned =>
      obtain ⟨character, rest, value, rfl, digit⟩ := isDigits.exists_head
      have notMinus : character ≠ '-' := by
        rintro rfl
        simp [digitValue?_minus] at digit
      have notPlus : character ≠ '+' := by
        rintro rfl
        simp [digitValue?_plus] at digit
      simp [Sign.written, Sign.factor, splitSign, notMinus, notPlus]

/-- Splitting off the sign loses nothing. -/
theorem exists_sign (text : List Char) :
    ∃ sign : Sign, sign.written ++ (splitSign text).2 = text := by
  fun_cases splitSign text with
  | case1 => exact ⟨.minus, rfl⟩
  | case2 => exact ⟨.plus, rfl⟩
  | case3 => exact ⟨.unsigned, rfl⟩

/-- The white space around a text without any is trimmed. -/
theorem trim_append {before core after : List Char}
    (isBlank_before : ∀ character ∈ before, isBlank character = true)
    (isBlank_core : ∀ character ∈ core, isBlank character = false)
    (isBlank_after : ∀ character ∈ after, isBlank character = true) :
    trim (before ++ core ++ after) = core := by
  have keeps (text : List Char) (plain : ∀ character ∈ text, isBlank character = false) :
      text.dropWhile isBlank = text :=
    List.dropWhile_eq_self_iff.mpr fun _ => by simp [plain]
  have front : (before ++ core ++ after).dropWhile isBlank = (core ++ after).dropWhile isBlank := by
    rw [List.append_assoc, List.dropWhile_append_of_pos isBlank_before]
  rw [trim, front]
  cases core with
  | nil => simp [List.dropWhile_eq_nil_iff.mpr isBlank_after]
  | cons character rest =>
      have plain : ¬ isBlank character = true := by simp [isBlank_core]
      rw [List.cons_append, List.dropWhile_cons_of_neg plain, ← List.cons_append,
        List.reverse_append, List.dropWhile_append_of_pos (by simpa using isBlank_after),
        keeps _ fun _ isReversed => isBlank_core _ (List.mem_reverse.mp isReversed),
        List.reverse_reverse]

/-- What trimming takes away is white space at both ends. -/
theorem exists_trim (text : List Char) :
    ∃ before after, (∀ character ∈ before, isBlank character = true) ∧
      (∀ character ∈ after, isBlank character = true) ∧ before ++ trim text ++ after = text := by
  refine ⟨text.takeWhile isBlank, (text.dropWhile isBlank).rtakeWhile isBlank,
    fun _ => List.mem_takeWhile_imp, fun _ => List.mem_rtakeWhile_imp, ?_⟩
  change _ ++ (text.dropWhile isBlank).rdropWhile isBlank ++ _ = _
  rw [List.append_assoc, List.rdropWhile_append_rtakeWhile, List.takeWhile_append_dropWhile]

/-- A number is read where the digits behind the sign go up to the end of the trimmed text and are
not too many. -/
theorem readInteger?_eq_some_iff {text : String} {number : Int} :
    readInteger? text = some number ↔
      ∃ values, digitRun (splitSign (trim text.toList)).2 = (values, []) ∧ values ≠ [] ∧
        values.length ≤ 4300 ∧ (splitSign (trim text.toList)).1 * ofDigits values = number := by
  rw [readInteger?, readInteger]
  generalize splitSign (trim text.toList) = signed
  obtain ⟨factor, digits⟩ := signed
  generalize isRun : digitRun digits = run
  obtain ⟨values, rest⟩ := run
  simp only [isRun, Prod.mk.injEq]
  cases rest with
  | cons character rest =>
      -- Something follows the digits, so whichever test comes first refuses the text.
      simp only [List.isEmpty_cons, Bool.false_eq_true, if_false, List.cons_ne_nil,
        and_false, false_and, exists_false, iff_false]
      split_ifs <;> simp [Except.toOption]
  | nil =>
      by_cases found : values = []
      · simp [found, Except.toOption]
      · by_cases isLong : digitLimit < values.length
        · have tooMany : ¬ values.length ≤ 4300 := Nat.not_le.mpr isLong
          simp [found, isLong, tooMany, Except.toOption]
        · have few : values.length ≤ 4300 := Nat.not_lt.mp isLong
          simp [found, isLong, few, Except.toOption]

namespace Numeral

/-- A written number is read at its value. -/
theorem readInteger?_text (numeral : Numeral) :
    readInteger? numeral.text = some numeral.value := by
  obtain ⟨before, sign, digits, values, after, isBlank_before, isBlank_after, isDigits,
    length_le⟩ := numeral
  have isBlank_plus : isBlank '+' = false := by decide
  have isBlank_minus : isBlank '-' = false := by decide
  have isBlank_sign : ∀ character ∈ sign.written, isBlank character = false := by
    cases sign <;> simp [Sign.written, isBlank_plus, isBlank_minus]
  have isBlank_core : ∀ character ∈ sign.written ++ digits, isBlank character = false := by
    simpa [or_imp, forall_and] using And.intro isBlank_sign isDigits.isBlank_eq_false
  have trimmed : trim (before ++ (sign.written ++ digits) ++ after) = sign.written ++ digits :=
    trim_append isBlank_before isBlank_core isBlank_after
  rw [readInteger?_eq_some_iff, text, String.toList_ofList, trimmed, splitSign_append isDigits]
  exact ⟨values, isDigits.digitRun_eq, isDigits.values_ne_nil, length_le,
    congrArg (fun total : Nat => sign.factor * (total : Int)) (ofDigits_eq values)⟩

/-- What is read is a written number. -/
theorem exists_of_readInteger? {text : String} {number : Int}
    (isRead : readInteger? text = some number) : ∃ numeral : Numeral, numeral.text = text := by
  obtain ⟨values, isRun, found, length_le, -⟩ := readInteger?_eq_some_iff.mp isRead
  obtain ⟨before, after, isBlank_before, isBlank_after, whole⟩ := exists_trim text.toList
  obtain ⟨sign, signed⟩ := exists_sign (trim text.toList)
  obtain ⟨-, rfl⟩ | isDigits := eq_nil_or_isDigits_of_digitRun _ isRun
  · exact absurd rfl found
  · refine ⟨⟨before, sign, _, values, after, isBlank_before, isBlank_after, isDigits,
      length_le⟩, ?_⟩
    rw [Numeral.text, signed, whole, String.ofList_toList]

end Numeral

/-- Digits with an underscore in front of the last so many of them, wherever one is wanted. -/
def grouped (gaps : Nat → Bool) : List Char → List Char
  | [] => []
  | digit :: rest =>
      if rest.isEmpty || !gaps rest.length then digit :: grouped gaps rest
      else digit :: '_' :: grouped gaps rest

/-- How a number is laid out when it is written. -/
structure Spelling where
  before : List Char := []
  plus : Bool := false
  zeros : Nat := 0
  gaps : Nat → Bool := fun _ => false
  after : List Char := []
  isBlank_before : ∀ character ∈ before, isBlank character = true := by simp [isBlank]
  isBlank_after : ∀ character ∈ after, isBlank character = true := by simp [isBlank]

namespace Spelling

/-- The sign that a number is written with. -/
def sign (spelling : Spelling) (number : Int) : Sign :=
  if number < 0 then .minus else if spelling.plus then .plus else .unsigned

/-- The digits that a number is written with, its leading zeros included. -/
def digits (spelling : Spelling) (number : Int) : List Char :=
  List.replicate spelling.zeros '0' ++ Nat.toDigits 10 number.natAbs

/-- The values of the digits that a number is written with. -/
def values (spelling : Spelling) (number : Int) : List Nat :=
  (spelling.digits number).map fun digit => digit.toNat - 48

/-- A number in decimal. -/
def written (spelling : Spelling) (number : Int) : String :=
  String.ofList (spelling.before ++ ((spelling.sign number).written ++
    grouped spelling.gaps (spelling.digits number)) ++ spelling.after)

end Spelling

/-- Digits are still digits when they are grouped. -/
theorem isDigits_grouped (gaps : Nat → Bool) {digits : List Char} (found : digits ≠ [])
    (isDigit : ∀ digit ∈ digits, digit.isDigit = true) :
    IsDigits (grouped gaps digits) (digits.map fun digit => digit.toNat - 48) := by
  induction digits with
  | nil => exact absurd rfl found
  | cons digit rest inductionHypothesis =>
      have isValue := digitValue?_of_isDigit (isDigit digit (by simp))
      by_cases isLast : rest = []
      · subst isLast
        exact .last isValue
      · have isDigits := inductionHypothesis isLast fun next isNext =>
          isDigit next (List.mem_cons_of_mem _ isNext)
        rw [grouped]
        split
        · exact .next isValue isDigits
        · exact .spaced isValue isDigits

namespace Spelling

variable (spelling : Spelling) (number : Int)

theorem isDigit_digits : ∀ digit ∈ spelling.digits number, digit.isDigit = true := by
  intro digit isDigit
  obtain isZero | isDecimal := List.mem_append.mp isDigit
  · rw [List.eq_of_mem_replicate isZero]
    rfl
  · exact Nat.isDigit_of_mem_toDigits (by decide) (by decide) isDecimal

theorem digits_ne_nil : spelling.digits number ≠ [] := by
  simp [digits, Nat.toDigits_ne_nil]

theorem isDigits_written :
    IsDigits (grouped spelling.gaps (spelling.digits number)) (spelling.values number) :=
  isDigits_grouped spelling.gaps (spelling.digits_ne_nil number) (spelling.isDigit_digits number)

/-- Leading zeros do not change a number. -/
theorem ofDigits_values : ofDigits (spelling.values number) = number.natAbs := by
  have isFold : ofDigits (spelling.values number) =
      Nat.ofDigitChars 10 (spelling.digits number) 0 := by
    rw [ofDigits, values, List.foldl_map, Nat.ofDigitChars_eq_foldl]
    rfl
  rw [isFold, digits, Nat.ofDigitChars_append, Nat.ofDigitChars_replicate_zero, Nat.mul_zero,
    Nat.ofDigitChars_ten_toDigits]

/-- The sign of a number and its absolute value make the number. -/
theorem factor_sign_mul : (spelling.sign number).factor * number.natAbs = number := by
  unfold sign
  split_ifs <;> simp only [Sign.factor] <;> omega

/-- A number that is laid out with few enough digits is a numeral. -/
def numeral (length_le : (spelling.digits number).length ≤ 4300) : Numeral where
  before := spelling.before
  sign := spelling.sign number
  digits := grouped spelling.gaps (spelling.digits number)
  values := spelling.values number
  after := spelling.after
  isBlank_before := spelling.isBlank_before
  isBlank_after := spelling.isBlank_after
  isDigits := spelling.isDigits_written number
  length_le := (List.length_map _).trans_le length_le

theorem value_numeral (length_le : (spelling.digits number).length ≤ 4300) :
    (spelling.numeral number length_le).value = number := by
  rw [Numeral.value, numeral, ← ofDigits_eq, ofDigits_values, factor_sign_mul]

end Spelling

/-- A setting reads exactly the numerals. A text that writes a number is read at its value, and the
setting stays at its default where nothing is given, or nothing in the text, or no numeral. So each
number that is laid out with at most 4300 digits is read back. -/
theorem Numeral.read_exactly (fallback : Int) :
    (∀ numeral : Numeral, numberOr fallback (some numeral.text) = numeral.value) ∧
    (∀ given : Option String, given = none ∨ given = some "" ∨
      (∀ numeral : Numeral, given ≠ some numeral.text) → numberOr fallback given = fallback) ∧
    ∀ (spelling : Spelling) (number : Int), (spelling.digits number).length ≤ 4300 →
      numberOr fallback (some (spelling.written number)) = number := by
  have reads (numeral : Numeral) : numberOr fallback (some numeral.text) = numeral.value := by
    simp [numberOr, givenNumber?, numeral.readInteger?_text]
  refine ⟨reads, ?_, fun spelling number length_le => ?_⟩
  · rintro given (rfl | rfl | isOther)
    · rfl
    · rfl
    · cases given with
      | none => rfl
      | some text =>
          cases isRead : readInteger? text with
          | none => simp [numberOr, givenNumber?, isRead]
          | some number =>
              obtain ⟨numeral, rfl⟩ := exists_of_readInteger? isRead
              exact absurd rfl (isOther numeral)
  · have written := reads (spelling.numeral number length_le)
    rwa [spelling.value_numeral] at written

/-- A negative number is read with leading zeros, groups of three digits and white space around it;
with two underscores in a row a text is no numeral. -/
theorem Numeral.read_exactly_grouped :
    let spelling : Spelling :=
      { before := ['\u3000'], zeros := 2, gaps := fun left => left % 3 == 0, after := [' ', '\n'] }
    spelling.written (-12345) = "\u3000-0_012_345 \n" ∧
      (spelling.digits (-12345)).length ≤ 4300 ∧
      numberOr 25 (some "\u3000-0_012_345 \n") = -12345 ∧
      (∀ numeral : Numeral, some "12__345" ≠ some numeral.text) ∧
      numberOr 25 (some "12__345") = 25 := by
  intro spelling
  have isWritten : spelling.written (-12345) = "\u3000-0_012_345 \n" := by decide
  have few : (spelling.digits (-12345)).length ≤ 4300 := by decide
  have isOther : ∀ numeral : Numeral, some "12__345" ≠ some numeral.text := by
    intro numeral same
    have isRefused : readInteger? "12__345" = none := by decide
    have isRead := numeral.readInteger?_text
    rw [← Option.some.inj same, isRefused] at isRead
    cases isRead
  refine ⟨isWritten, few, ?_, isOther, ?_⟩
  · rw [← isWritten]
    exact (Numeral.read_exactly 25).2.2 spelling (-12345) few
  · exact (Numeral.read_exactly 25).2.1 _ (.inr (.inr isOther))

end Text

end Lookout
