import Mathlib.Data.List.Basic
import Mathlib.Data.List.TakeWhile
import Reckoner.Decimal.Layout
import Reckoner.Decimal.Numeral

/-!
Contract: numerals without sign and exponent.

A plain numeral is a run of ASCII digits, followed by a point and a second run
if there are digits behind the point. Main statements: the positional form
without an ending is the text of a plain numeral with the value of the decimal,
and the reader of numerals gives every plain numeral back.

Owns: plain numerals, their text and value, and those of a natural number and
of a decimal.

Does not own: which decimal stands for a double.
-/

namespace Reckoner

open Text (digitValueFrom digitValue? digitZeros isDecimalDigit)

/-- A run of ASCII digits and a second one, which stands behind a point if it
is not empty. -/
structure PlainNumeral where
  whole : List Char
  fraction : List Char
  whole_ne_nil : whole ≠ []
  whole_digits : ∀ character ∈ whole, character.isDigit = true
  fraction_digits : ∀ character ∈ fraction, character.isDigit = true

namespace PlainNumeral

def characters (numeral : PlainNumeral) : List Char :=
  if numeral.fraction = [] then numeral.whole
  else numeral.whole ++ '.' :: numeral.fraction

def value (numeral : PlainNumeral) : Decimal where
  coefficient := Nat.ofDigitChars 10 (numeral.whole ++ numeral.fraction) 0
  exponent := -(numeral.fraction.length : Int)

end PlainNumeral

/-! ### ASCII digits -/

theorem Text.digitValue?_of_isDigit {character : Char} (digit : character.isDigit = true) :
    digitValue? character = some (character.toNat - '0'.toNat) := by
  obtain ⟨above, below⟩ := Char.isDigit_iff_toNat.mp digit
  have zero : '0'.toNat = 48 := rfl
  have nine : '9'.toNat = 57 := rfl
  rw [digitValue?, digitZeros, digitValueFrom, if_neg (by omega), if_pos (by omega), zero]

theorem Text.isDecimalDigit_of_isDigit {character : Char} (digit : character.isDigit = true) :
    isDecimalDigit character = true := by
  rw [isDecimalDigit, digitValue?_of_isDigit digit]
  rfl

theorem Numeral.digitsValue_eq {digits : List Char}
    (areDigits : ∀ character ∈ digits, character.isDigit = true) :
    digitsValue digits = Nat.ofDigitChars 10 digits 0 := by
  rw [digitsValue, Nat.ofDigitChars_eq_foldl]
  apply List.foldl_ext
  intro value digit member
  rw [Text.digitValue?_of_isDigit (areDigits digit member), Option.getD_some, Nat.mul_comm]

theorem isDigit_of_mem_toDigits {value : Nat} {character : Char}
    (member : character ∈ Nat.toDigits 10 value) : character.isDigit = true :=
  Nat.isDigit_of_mem_toDigits (by decide) (by decide) member

theorem isDigit_of_mem_zeros {count : Nat} {character : Char}
    (member : character ∈ List.replicate count '0') : character.isDigit = true := by
  rw [List.eq_of_mem_replicate member]
  decide

namespace PlainNumeral

/-! ### The text of a plain numeral -/

theorem isDigit_or_point_of_mem {numeral : PlainNumeral} {character : Char}
    (member : character ∈ numeral.characters) :
    character.isDigit = true ∨ character = '.' := by
  unfold characters at member
  split at member
  · exact .inl (numeral.whole_digits character member)
  · rcases List.mem_append.mp member with inWhole | behind
    · exact .inl (numeral.whole_digits character inWhole)
    · rcases List.mem_cons.mp behind with isPoint | inFraction
      · exact .inr isPoint
      · exact .inl (numeral.fraction_digits character inFraction)

/-- A plain numeral begins with a digit. -/
theorem exists_first (numeral : PlainNumeral) :
    ∃ first rest, numeral.characters = first :: rest ∧ first.isDigit = true := by
  obtain ⟨first, rest, begins⟩ := List.exists_cons_of_ne_nil numeral.whole_ne_nil
  have digit : first.isDigit = true := numeral.whole_digits first (by simp [begins])
  unfold characters
  split
  · exact ⟨first, rest, begins, digit⟩
  · exact ⟨first, rest ++ '.' :: numeral.fraction, by rw [begins]; rfl, digit⟩

/-- A plain numeral ends with a digit. -/
theorem exists_last (numeral : PlainNumeral) :
    ∃ before last, numeral.characters = before ++ [last] ∧ last.isDigit = true := by
  unfold characters
  split
  · obtain ⟨before, last, ends⟩ := (List.eq_nil_or_concat' _).resolve_left numeral.whole_ne_nil
    exact ⟨before, last, ends, numeral.whole_digits last (by simp [ends])⟩
  · rename_i nonempty
    obtain ⟨before, last, ends⟩ := (List.eq_nil_or_concat' _).resolve_left nonempty
    refine ⟨numeral.whole ++ '.' :: before, last, ?_, ?_⟩
    · rw [ends]
      simp
    · exact numeral.fraction_digits last (by simp [ends])

/-- **A plain numeral is read back** with the value that it stands for. -/
theorem ofUnsigned?_characters (numeral : PlainNumeral) (negative : Bool) :
    Numeral.ofUnsigned? negative numeral.characters = some ⟨negative, numeral.value⟩ := by
  have wholeDigits : ∀ character ∈ numeral.whole, isDecimalDigit character = true :=
    fun character member => Text.isDecimalDigit_of_isDigit (numeral.whole_digits character member)
  have fractionDigits : numeral.fraction.all isDecimalDigit = true :=
    List.all_eq_true.mpr fun character member =>
      Text.isDecimalDigit_of_isDigit (numeral.fraction_digits character member)
  have areDigits : ∀ character ∈ numeral.whole ++ numeral.fraction, character.isDigit = true :=
    List.forall_mem_append.mpr ⟨numeral.whole_digits, numeral.fraction_digits⟩
  have started : numeral.whole.isEmpty = false := by simp [numeral.whole_ne_nil]
  have read : Numeral.ofDigits negative numeral.whole numeral.fraction =
      ⟨negative, numeral.value⟩ := by
    rw [Numeral.ofDigits, Numeral.digitsValue_eq areDigits, value]
  unfold Numeral.ofUnsigned? characters
  split
  · rename_i none
    rw [List.takeWhile_eq_self_iff.mpr wholeDigits, List.dropWhile_eq_nil_iff.mpr wholeDigits]
    simp only [started, Bool.false_eq_true, if_false]
    rw [← read, none]
  · have noDigit : ¬ isDecimalDigit '.' = true := by decide
    rw [List.takeWhile_append_of_pos wholeDigits, List.dropWhile_append_of_pos wholeDigits,
      List.takeWhile_cons_of_neg noDigit, List.dropWhile_cons_of_neg noDigit, List.append_nil]
    simp only [fractionDigits, started, Bool.false_and, Bool.not_false, Bool.and_self, if_true]
    rw [read]

/-! ### The plain numeral of a natural number -/

def ofNat (value : Nat) : PlainNumeral where
  whole := Nat.toDigits 10 value
  fraction := []
  whole_ne_nil := Nat.toDigits_ne_nil
  whole_digits := fun _ member => isDigit_of_mem_toDigits member
  fraction_digits := by simp

theorem characters_ofNat (value : Nat) : (ofNat value).characters = Nat.toDigits 10 value :=
  if_pos rfl

theorem value_ofNat (number : Nat) : (ofNat number).value = ⟨number, 0⟩ := by
  have digits : (ofNat number).whole ++ (ofNat number).fraction = Nat.toDigits 10 number :=
    List.append_nil _
  rw [value, digits, Nat.ofDigitChars_ten_toDigits]
  rfl

/-! ### The plain numeral of a decimal -/

-- A power of naturals is that of the core library, also where algebra is in scope.
attribute [local instance (high)] instPowNat

/-- The digits of the decimal with the point in its place, filled up with zeros
on either side. -/
def ofDecimal (decimal : Decimal) : PlainNumeral :=
  if 0 ≤ decimal.exponent then
    { whole := decimal.digits ++ List.replicate decimal.exponent.toNat '0'
      fraction := []
      whole_ne_nil := List.append_ne_nil_of_left_ne_nil Nat.toDigits_ne_nil _
      whole_digits := List.forall_mem_append.mpr
        ⟨fun _ member => isDigit_of_mem_toDigits member,
          fun _ member => isDigit_of_mem_zeros member⟩
      fraction_digits := by simp }
  else if behind : (-decimal.exponent).toNat < decimal.digits.length then
    let places := decimal.digits.length - (-decimal.exponent).toNat
    { whole := decimal.digits.take places
      fraction := decimal.digits.drop places
      whole_ne_nil := List.ne_nil_of_length_pos (by simp only [List.length_take]; omega)
      whole_digits := fun _ member => isDigit_of_mem_toDigits (List.mem_of_mem_take member)
      fraction_digits := fun _ member => isDigit_of_mem_toDigits (List.mem_of_mem_drop member) }
  else
    { whole := ['0']
      fraction :=
        List.replicate ((-decimal.exponent).toNat - decimal.digits.length) '0' ++ decimal.digits
      whole_ne_nil := by simp
      whole_digits := List.forall_mem_singleton.mpr (by decide)
      fraction_digits := List.forall_mem_append.mpr
        ⟨fun _ member => isDigit_of_mem_zeros member,
          fun _ member => isDigit_of_mem_toDigits member⟩ }

/-- **The positional form is the text of a plain numeral.** -/
theorem characters_ofDecimal (decimal : Decimal) :
    (ofDecimal decimal).characters = decimal.positional [] := by
  unfold ofDecimal Decimal.positional characters
  by_cases nonneg : 0 ≤ decimal.exponent
  · simp [nonneg]
  · simp only [if_neg nonneg]
    have places : 0 < (-decimal.exponent).toNat := by omega
    by_cases behind : (-decimal.exponent).toNat < decimal.digits.length
    · rw [dif_pos behind, if_pos behind, if_neg]
      rw [List.drop_eq_nil_iff]
      omega
    · rw [dif_neg behind, if_neg behind, if_neg]
      · rfl
      · exact List.append_ne_nil_of_right_ne_nil _ Nat.toDigits_ne_nil

private theorem value_ofDecimal_of_nonneg {decimal : Decimal} (nonneg : 0 ≤ decimal.exponent) :
    (ofDecimal decimal).value = ⟨10 ^ decimal.exponent.toNat * decimal.coefficient, 0⟩ := by
  rw [ofDecimal, if_pos nonneg, value]
  simp [Nat.ofDigitChars_append, Decimal.digits]

theorem value_ofDecimal_of_neg {decimal : Decimal} (negative : decimal.exponent < 0) :
    (ofDecimal decimal).value = decimal := by
  have digits : Nat.ofDigitChars 10 decimal.digits 0 = decimal.coefficient :=
    Nat.ofDigitChars_ten_toDigits
  unfold ofDecimal value
  rw [if_neg (by omega)]
  split
  · rename_i behind
    dsimp only
    rw [List.take_append_drop, digits]
    congr 1
    simp only [List.length_drop]
    omega
  · rename_i before
    dsimp only
    have zeros (count : Nat) : Nat.ofDigitChars 10 (['0'] ++ List.replicate count '0') 0 = 0 := by
      simp [Nat.ofDigitChars_cons]
    rw [← List.append_assoc, Nat.ofDigitChars_append, zeros, digits]
    congr 1
    simp only [List.length_append, List.length_replicate]
    omega

/-- The plain numeral of a decimal lies where the decimal does. -/
theorem roundsTo_value_ofDecimal {decimal : Decimal} {magnitude : Binary64.Magnitude} :
    (ofDecimal decimal).value.RoundsTo magnitude ↔ decimal.RoundsTo magnitude := by
  by_cases nonneg : 0 ≤ decimal.exponent
  · have none : (-decimal.exponent).toNat = 0 := by omega
    simp [Decimal.RoundsTo, Decimal.unitNumerator, Decimal.unitDenominator,
      value_ofDecimal_of_nonneg nonneg, none, Nat.mul_comm (10 ^ _)]
  · rw [value_ofDecimal_of_neg (by omega)]

end PlainNumeral

end Reckoner
