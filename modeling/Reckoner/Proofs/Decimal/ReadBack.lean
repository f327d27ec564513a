import Reckoner.Proofs.Decimal.Range
import Reckoner.Proofs.Token.Numeral
import Reckoner.Proofs.Token.NumeralShape

/-!
Contract: what the reader of numbers accepts, and that it reads back doubles in
the compact layout.

The reader accepts every numeral, and a numeral before a mark and a power of ten.
The compact layout writes whole numbers without a point, so its positional form
is a plain numeral. Its scientific form is a plain numeral, the mantissa, and
the power of ten that belongs to it behind a mark; the reader's cut of large
powers does not touch it, because the leading exponent of a double is small.
Main statement: the reader gives every double back from its text, NaN, the
infinities and both zeros included.

Owns: the two ways to read a number, the mantissa and its power, and the
characters of the text.

Does not own: the bound on leading exponents, or the text of a table.
-/

namespace Reckoner

open Text (dropFinalLineFeed isDecimalDigit)

namespace Decimal

variable (width : Nat) (decimal : Decimal)

/-! ### The scientific form -/

/-- The digits of the decimal with the point behind the first. -/
def mantissa : PlainNumeral where
  whole := decimal.digits.take 1
  fraction := decimal.digits.drop 1
  whole_ne_nil := List.ne_nil_of_length_pos <| by
    have some := decimal.length_digits_pos
    rw [List.length_take]
    omega
  whole_digits := fun _ member => isDigit_of_mem_toDigits (List.mem_of_mem_take member)
  fraction_digits := fun _ member => isDigit_of_mem_toDigits (List.mem_of_mem_drop member)

/-- The digits of the power of ten, filled up with zeros to a width. -/
def powerDigits : List Char :=
  List.replicate (width - (Nat.toDigits 10 decimal.leadingExponent.natAbs).length) '0' ++
    Nat.toDigits 10 decimal.leadingExponent.natAbs

/-- The power of ten with its sign. -/
def signedPower : List Char :=
  (if decimal.leadingExponent < 0 then '-' else '+') :: decimal.powerDigits width

private theorem scientific_eq :
    decimal.scientific width =
      decimal.mantissa.characters ++ 'e' :: decimal.signedPower width := by
  have sameMantissa :
      decimal.digits.take 1 ++
          (if (decimal.digits.drop 1).isEmpty then [] else '.' :: decimal.digits.drop 1) =
        decimal.mantissa.characters := by
    unfold PlainNumeral.characters mantissa
    simp only [List.isEmpty_iff]
    split
    · exact List.append_nil _
    · rfl
  unfold scientific
  dsimp only
  rw [sameMantissa, signedPower, powerDigits]
  simp only [List.append_assoc, List.cons_append, List.nil_append]

theorem value_mantissa :
    decimal.mantissa.value = ⟨decimal.coefficient, -((decimal.digits.length - 1 : Nat) : Int)⟩ := by
  have digits : decimal.mantissa.whole ++ decimal.mantissa.fraction = decimal.digits :=
    List.take_append_drop ..
  have places : decimal.mantissa.fraction.length = decimal.digits.length - 1 :=
    List.length_drop ..
  rw [PlainNumeral.value, digits, places, Decimal.digits, Nat.ofDigitChars_ten_toDigits]

private theorem isDigit_of_mem_powerDigits {character : Char}
    (member : character ∈ decimal.powerDigits width) : character.isDigit = true := by
  rcases List.mem_append.mp member with isZero | isDigit
  · exact isDigit_of_mem_zeros isZero
  · exact isDigit_of_mem_toDigits isDigit

private theorem natural?_powerDigits :
    Numeral.exponentOfChars?.natural? (decimal.powerDigits width) =
      some (decimal.leadingExponent.natAbs : Int) := by
  have nonempty : decimal.powerDigits width ≠ [] :=
    List.append_ne_nil_of_right_ne_nil _ Nat.toDigits_ne_nil
  have digits : (decimal.powerDigits width).all Char.isDigit = true :=
    List.all_eq_true.mpr fun _ member => decimal.isDigit_of_mem_powerDigits width member
  have value : Nat.ofDigitChars 10 (decimal.powerDigits width) 0 =
      decimal.leadingExponent.natAbs := by
    simp [powerDigits, Nat.ofDigitChars_append]
  simp [Numeral.exponentOfChars?.natural?, nonempty, digits, value]

/-- The power is read back. -/
theorem exponentOfChars?_signedPower :
    Numeral.exponentOfChars? (decimal.signedPower width) = some decimal.leadingExponent := by
  unfold signedPower
  by_cases negative : decimal.leadingExponent < 0
  · rw [if_pos negative, Numeral.exponentOfChars?, natural?_powerDigits, Option.map_some]
    congr 1
    omega
  · rw [if_neg negative, Numeral.exponentOfChars?, natural?_powerDigits]
    congr 1
    omega

/-- The mantissa times its power is the decimal: the cut of large powers leaves
a small one as it is. -/
theorem scale_mantissa (negative : Bool)
    (small : -400 ≤ decimal.leadingExponent ∧ decimal.leadingExponent ≤ 400) :
    Numeral.scale ⟨negative, decimal.mantissa.value⟩ decimal.leadingExponent =
      ⟨negative, decimal⟩ := by
  have some := decimal.length_digits_pos
  have moved : decimal.leadingExponent = decimal.exponent + decimal.digits.length - 1 := rfl
  rw [Numeral.scale, value_mantissa]
  congr 1
  show Decimal.mk decimal.coefficient _ = Decimal.mk decimal.coefficient decimal.exponent
  congr 1
  dsimp only
  omega

end Decimal

/-! ### Reading -/

namespace Binary64

/-- A character that stands between the mantissa and the power of ten. -/
def isMark (character : Char) : Bool :=
  character == 'e' || character == 'E'

theorem not_isMark_of_shaped {characters : List Char} (shape : Numeral.Shaped characters) :
    ∀ character ∈ characters, (!isMark character) = true := by
  intro character member
  rcases shape.mem character member with digit | rfl | rfl | rfl
  · rw [isMark, Bool.not_eq_true', Bool.or_eq_false_iff, beq_eq_false_iff_ne, beq_eq_false_iff_ne]
    constructor
    · rintro rfl
      exact absurd digit (by decide)
    · rintro rfl
      exact absurd digit (by decide)
  · decide
  · decide
  · decide

/-- The reader of the characters of a number that is finite. -/
def ofCharacters? (characters : List Char) : Option Binary64 :=
  let mantissa := characters.takeWhile (!isMark ·)
  match characters.dropWhile (!isMark ·) with
  | [] => (Numeral.ofChars? mantissa).map Numeral.toBinary64
  | _ :: exponent => do
      let numeral ← Numeral.ofChars? mantissa
      let power ← Numeral.exponentOfChars? exponent
      return (numeral.scale power).toBinary64

/-- A text that holds a digit is not that of NaN or of an infinity. -/
theorem ofText?_ofList {characters : List Char}
    (numeric : ∃ character ∈ characters, isDecimalDigit character = true) :
    ofText? (String.ofList characters) = ofCharacters? characters := by
  have differs {word : String} (noDigit : word.toList.all (!isDecimalDigit ·) = true) :
      String.ofList characters ≠ word := by
    rintro rfl
    obtain ⟨character, member, digit⟩ := numeric
    rw [← String.toList_ofList (l := characters)] at member
    have isLetter := List.all_eq_true.mp noDigit character member
    rw [digit] at isLetter
    cases isLetter
  unfold ofText?
  split
  · rename_i same
    exact absurd same (differs (by decide))
  · rename_i same
    exact absurd same (differs (by decide))
  · rename_i same
    exact absurd same (differs (by decide))
  · rw [String.toList_ofList]
    rfl

variable {characters : List Char}

/-- A numeral is read as a number. -/
theorem ofText?_of_shaped (shape : Numeral.Shaped characters) :
    ofText? (String.ofList characters) = (Numeral.ofChars? characters).map Numeral.toBinary64 := by
  have unmarked := not_isMark_of_shaped shape
  rw [ofText?_ofList shape.exists_digit, ofCharacters?, List.takeWhile_eq_self_iff.mpr unmarked,
    List.dropWhile_eq_nil_iff.mpr unmarked]

/-- So is a numeral before a mark and a power of ten. -/
theorem ofText?_append_mark {exponent : List Char} {numeral : Numeral} {power : Int}
    (isNumeral : Numeral.ofChars? characters = some numeral)
    (isPower : Numeral.exponentOfChars? exponent = some power) :
    ofText? (String.ofList (characters ++ 'e' :: exponent)) =
      some (numeral.scale power).toBinary64 := by
  have shape : Numeral.Shaped characters := Numeral.isSome_ofChars?_iff.mp (by rw [isNumeral]; rfl)
  have unmarked := not_isMark_of_shaped shape
  have numeric : ∃ character ∈ characters ++ 'e' :: exponent, isDecimalDigit character = true := by
    obtain ⟨character, member, digit⟩ := shape.exists_digit
    exact ⟨character, List.mem_append_left _ member, digit⟩
  have mantissa :
      (characters ++ 'e' :: exponent).takeWhile (!isMark ·) = characters :=
    (List.takeWhile_append_of_pos unmarked).trans (List.append_nil characters)
  have behind :
      (characters ++ 'e' :: exponent).dropWhile (!isMark ·) = 'e' :: exponent :=
    List.dropWhile_append_of_pos unmarked
  rw [ofText?_ofList numeric, ofCharacters?, mantissa, behind]
  dsimp only
  rw [isNumeral, isPower]
  rfl

end Binary64

/-- **A word that is a numeral is read as a number**, a final line feed aside. -/
theorem Numeral.ofText?_trim {word : String} (shape : Shaped (dropFinalLineFeed word.toList)) :
    ∃ numeral, ofChars? (dropFinalLineFeed word.toList) = some numeral ∧
      Binary64.ofText? (Text.trim word) = some numeral.toBinary64 := by
  obtain ⟨numeral, read⟩ := Option.isSome_iff_exists.mp (isSome_ofChars?_iff.mpr shape)
  refine ⟨numeral, read, ?_⟩
  rw [Text.trim, shape.trimBlanks_eq, Binary64.ofText?_of_shaped shape, read]
  rfl

/-! ### Writing and reading back -/

namespace Layout

/-- Without an ending, a number is written as a plain numeral, or as one before a
mark and a power of ten. Only whole numbers can get an ending. -/
theorem write_finite (layout : Layout) (negative : Bool) (magnitude : Binary64.Magnitude)
    (bare : layout.wholeEnding = "" ∨ (Decimal.shortest magnitude).exponent < 0) :
    layout.write (.finite negative magnitude) =
        String.ofList
          ((PlainNumeral.ofDecimal (Decimal.shortest magnitude)).signed negative) ∨
      layout.write (.finite negative magnitude) =
        String.ofList ((Decimal.shortest magnitude).mantissa.signed negative ++
          'e' :: (Decimal.shortest magnitude).signedPower layout.exponentWidth) := by
  by_cases positional :
      layout.leastPositional ≤ (Decimal.shortest magnitude).leadingExponent ∧
        (Decimal.shortest magnitude).leadingExponent < layout.leastScientific
  · left
    have noEnding : (Decimal.shortest magnitude).positional layout.wholeEnding.toList =
        (Decimal.shortest magnitude).positional [] := by
      rcases bare with none | fraction
      · rw [none]
        rfl
      · rw [Decimal.positional, Decimal.positional, if_neg (Int.not_le.mpr fraction),
          if_neg (Int.not_le.mpr fraction)]
    rw [write, writeDecimal, if_pos positional, noEnding, PlainNumeral.signed,
      PlainNumeral.characters_ofDecimal]
  · right
    rw [write, writeDecimal, if_neg positional, Decimal.scientific_eq, PlainNumeral.signed,
      List.append_assoc]

/-- The letters, the digits, the point and the signs. -/
def isNumberCharacter (character : Char) : Bool :=
  character.isAlphanum || character == '.' || character == '-' || character == '+'

private theorem isNumberCharacter_of_isDigit {character : Char} (digit : character.isDigit = true) :
    isNumberCharacter character = true := by
  simp [isNumberCharacter, Char.isAlphanum, digit]

/-- The text of a double in the compact layout is not empty, and it consists of
letters, digits, points and signs. -/
theorem write_compact_characters (value : Binary64) :
    (compact.write value).toList ≠ [] ∧
      ∀ character ∈ (compact.write value).toList, isNumberCharacter character = true := by
  cases value with
  | nan => exact ⟨by decide, List.all_eq_true.mp (by decide)⟩
  | infinite negative =>
      cases negative with
      | false => exact ⟨by decide, List.all_eq_true.mp (by decide)⟩
      | true => exact ⟨by decide, List.all_eq_true.mp (by decide)⟩
  | finite negative magnitude =>
      have nonempty (numeral : PlainNumeral) : numeral.signed negative ≠ [] := by
        obtain ⟨before, last, ends, _⟩ := numeral.exists_last_signed negative
        rw [ends]
        exact List.append_ne_nil_of_right_ne_nil _ (List.cons_ne_nil _ _)
      have ofNumeral (numeral : PlainNumeral) :
          ∀ character ∈ numeral.signed negative, isNumberCharacter character = true := by
        intro character member
        rcases numeral.isDigit_or_of_mem_signed negative member with digit | rfl | rfl
        · exact isNumberCharacter_of_isDigit digit
        · decide
        · decide
      rcases compact.write_finite negative magnitude (.inl rfl) with positional | scientific
      · rw [positional, String.toList_ofList]
        exact ⟨nonempty _, ofNumeral _⟩
      · rw [scientific, String.toList_ofList]
        refine ⟨List.append_ne_nil_of_left_ne_nil (nonempty _) _, ?_⟩
        intro character member
        rcases List.mem_append.mp member with inMantissa | behind
        · exact ofNumeral _ character inMantissa
        · rcases List.mem_cons.mp behind with rfl | inPower
          · decide
          · rcases List.mem_cons.mp inPower with rfl | isDigit
            · split <;> decide
            · exact isNumberCharacter_of_isDigit
                (Decimal.isDigit_of_mem_powerDigits _ _ isDigit)

/-- **Every double is read back from its compact text**, with its sign. -/
theorem ofText?_write_compact (value : Binary64) :
    Binary64.ofText? (compact.write value) = some value := by
  cases value with
  | nan => rfl
  | infinite negative => cases negative <;> rfl
  | finite negative magnitude =>
      have rounds := Decimal.shortest_roundsTo magnitude
      rcases compact.write_finite negative magnitude (.inl rfl) with positional | scientific
      · have sameRounds := PlainNumeral.roundsTo_value_ofDecimal.mpr rounds
        have read := PlainNumeral.ofChars?_signed
          (.ofDecimal (Decimal.shortest magnitude)) negative
        have shape := Numeral.isSome_ofChars?_iff.mp (Option.isSome_of_eq_some read)
        rw [positional, Binary64.ofText?_of_shaped shape, read, Option.map_some, Numeral.toBinary64,
          Decimal.toBinary64_of_roundsTo _ sameRounds]
      · have isPower :=
          (Decimal.shortest magnitude).exponentOfChars?_signedPower compact.exponentWidth
        have small := Decimal.leadingExponent_shortest magnitude
        have isMantissa := PlainNumeral.ofChars?_signed
          (Decimal.shortest magnitude).mantissa negative
        rw [scientific, Binary64.ofText?_append_mark isMantissa isPower,
          Decimal.scale_mantissa _ _ small, Numeral.toBinary64,
          Decimal.toBinary64_of_roundsTo _ rounds]

end Layout

end Reckoner
