import Mathlib.Algebra.Order.Field.Basic
import Mathlib.Algebra.Order.Field.Rat
import Mathlib.Tactic.FieldSimp
import Mathlib.Tactic.Linarith
import Reckoner.Proofs.Decimal.ReadBack

/-!
Contract: the exact number behind a decimal, a text and a double.

Each of them stands for a rational number. A text denotes its numeral, or its
numeral times the power of ten behind a mark; what a reader rounds is this number.
Main statements: a decimal is the quotient of the units that it is rounded from,
and both forms in which it is written denote it.

Owns: these numbers.

Does not own: which decimal is written, and where it rounds to.
-/

namespace Reckoner

-- A power of naturals is that of the core library, also where algebra is in scope.
attribute [local instance (high)] instPowNat

open Binary64 (Magnitude isMark unitsPerOne)

/-! ### The numbers -/

namespace Decimal

def toRat (decimal : Decimal) : ℚ :=
  decimal.coefficient * 10 ^ decimal.exponent

/-- The number is the quotient of the units that it is rounded from. -/
theorem toRat_eq_units (decimal : Decimal) :
    decimal.toRat = decimal.unitNumerator / decimal.unitDenominator / unitsPerOne := by
  have parted : decimal.exponent =
      (decimal.exponent.toNat : ℤ) - ((-decimal.exponent).toNat : ℤ) := by omega
  have power : (10 : ℚ) ^ decimal.exponent =
      (10 : ℚ) ^ decimal.exponent.toNat / (10 : ℚ) ^ (-decimal.exponent).toNat := by
    conv_lhs => rw [parted]
    rw [zpow_sub₀ (by norm_num), zpow_natCast, zpow_natCast]
  have nonzero : (unitsPerOne : ℚ) ≠ 0 :=
    Nat.cast_ne_zero.mpr (Nat.ne_of_gt Binary64.unitsPerOne_pos)
  rw [toRat, power, unitNumerator, unitDenominator]
  push_cast
  field_simp

theorem toRat_nonneg (decimal : Decimal) : 0 ≤ decimal.toRat :=
  mul_nonneg (Nat.cast_nonneg _) (zpow_nonneg (by norm_num) _)

end Decimal

/-- The number of a numeral, with its sign. -/
def Numeral.toRat (numeral : Numeral) : ℚ :=
  if numeral.negative then -numeral.magnitude.toRat else numeral.magnitude.toRat

namespace Binary64

/-- The number of a finite value; zero for a value that is not finite. -/
def toRat (value : Binary64) : ℚ :=
  value.signedUnits / unitsPerOne

theorem toRat_finite (negative : Bool) (magnitude : Magnitude) :
    (finite negative magnitude).toRat =
      if negative then -(magnitude.units / unitsPerOne : ℚ) else magnitude.units / unitsPerOne := by
  cases negative with
  | false => exact congrArg (· / (unitsPerOne : ℚ)) (Int.cast_natCast magnitude.units)
  | true =>
      have negated : ((-(magnitude.units : ℤ) : ℤ) : ℚ) = -(magnitude.units : ℚ) := by
        push_cast
        rfl
      exact (congrArg (· / (unitsPerOne : ℚ)) negated).trans (neg_div _ _)

theorem signedUnits_neg (value : Binary64) : value.neg.signedUnits = -value.signedUnits := by
  cases value with
  | nan => rfl
  | infinite negative => rfl
  | finite negative magnitude =>
      cases negative with
      | false => rfl
      | true => exact (Int.neg_neg _).symm

theorem toRat_neg (value : Binary64) : value.neg.toRat = -value.toRat := by
  rw [toRat, signedUnits_neg, Int.cast_neg, neg_div, toRat]

end Binary64

/-! ### The number of a text -/

/-- The number that a text denotes. -/
def Text.denoted? (text : String) : Option ℚ :=
  let mantissa := text.toList.takeWhile (!isMark ·)
  match text.toList.dropWhile (!isMark ·) with
  | [] => (Numeral.ofChars? mantissa).map Numeral.toRat
  | _ :: exponent => do
      let numeral ← Numeral.ofChars? mantissa
      let power ← Numeral.exponentOfChars? exponent
      return numeral.toRat * 10 ^ power

namespace Text

variable {characters : List Char} {numeral : Numeral}

private theorem denoted?_numeral (isNumeral : Numeral.ofChars? characters = some numeral) :
    denoted? (String.ofList characters) = some numeral.toRat := by
  have shape : Numeral.Shaped characters := Numeral.isSome_ofChars?_iff.mp (by rw [isNumeral]; rfl)
  have unmarked := Binary64.not_isMark_of_shaped shape
  rw [denoted?, String.toList_ofList, List.takeWhile_eq_self_iff.mpr unmarked,
    List.dropWhile_eq_nil_iff.mpr unmarked, isNumeral]
  rfl

private theorem denoted?_append_mark {exponent : List Char} {power : Int}
    (isNumeral : Numeral.ofChars? characters = some numeral)
    (isPower : Numeral.exponentOfChars? exponent = some power) :
    denoted? (String.ofList (characters ++ 'e' :: exponent)) =
      some (numeral.toRat * 10 ^ power) := by
  have shape : Numeral.Shaped characters := Numeral.isSome_ofChars?_iff.mp (by rw [isNumeral]; rfl)
  have unmarked := Binary64.not_isMark_of_shaped shape
  have mantissa : (characters ++ 'e' :: exponent).takeWhile (!isMark ·) = characters :=
    (List.takeWhile_append_of_pos unmarked).trans (List.append_nil characters)
  have behind : (characters ++ 'e' :: exponent).dropWhile (!isMark ·) = 'e' :: exponent :=
    List.dropWhile_append_of_pos unmarked
  rw [denoted?, String.toList_ofList, mantissa, behind]
  dsimp only
  rw [isNumeral, isPower]
  rfl

/-- A signed plain numeral denotes its value. -/
theorem denoted?_signed (numeral : PlainNumeral) (negative : Bool) :
    denoted? (String.ofList (numeral.signed negative)) =
      some (Numeral.toRat ⟨negative, numeral.value⟩) :=
  denoted?_numeral (numeral.ofChars?_signed negative)

/-- The scientific form denotes the decimal, whatever the width of its power. -/
theorem denoted?_scientific (decimal : Decimal) (negative : Bool) (width : Nat) :
    denoted? (String.ofList
        (decimal.mantissa.signed negative ++ 'e' :: decimal.signedPower width)) =
      some (Numeral.toRat ⟨negative, decimal⟩) := by
  have moved : decimal.exponent =
      -((decimal.digits.length - 1 : Nat) : Int) + decimal.leadingExponent := by
    have some := decimal.length_digits_pos
    rw [Decimal.leadingExponent]
    omega
  have scaled : decimal.mantissa.value.toRat * 10 ^ decimal.leadingExponent = decimal.toRat := by
    rw [decimal.value_mantissa, Decimal.toRat, Decimal.toRat, moved, zpow_add₀ (by norm_num),
      mul_assoc]
  have signed : Numeral.toRat ⟨negative, decimal.mantissa.value⟩ * 10 ^ decimal.leadingExponent =
      Numeral.toRat ⟨negative, decimal⟩ := by
    cases negative with
    | false => exact scaled
    | true => exact (neg_mul _ _).trans (congrArg Neg.neg scaled)
  rw [denoted?_append_mark (decimal.mantissa.ofChars?_signed negative)
    (decimal.exponentOfChars?_signedPower width), signed]

end Text

end Reckoner
