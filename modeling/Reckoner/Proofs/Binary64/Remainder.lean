import Mathlib.Data.Rat.Floor
import Mathlib.Data.Sign.Basic
import Mathlib.Tactic.FieldSimp
import Mathlib.Tactic.Positivity
import Reckoner.Proofs.Decimal.Exact
import Reckoner.Proofs.Grammar.Tree

/-!
Contract: the remainder of two doubles is exact.

The quotient of two doubles has up to two thousand bits, so in general it is no double.
It is never rounded: what is left when it is cut off is a whole number of units, and
the grid of the operand that lies nearer to zero holds it. Main statement: the operator
returns the dividend less the divisor times the quotient, cut off, as a rational
equation, with the sign bit of the dividend, and the divisor is refused exactly if it
is one of the two zeros.

Owns: cutting a rational number off, the remainder of two rational numbers, and the
remainder of every two doubles, NaN and the infinities included.

Does not own: that a remainder of units lies on the grid, and the other operators.
-/

namespace Reckoner

open Binary64 (Magnitude unitsPerOne)

/-! ### Rational numbers -/

/-- The number with its fraction cut off: the next integer towards zero. -/
def truncated (number : ℚ) : ℤ :=
  if number < 0 then ⌈number⌉ else ⌊number⌋

/-- What is left of the dividend when their quotient is cut off. -/
def exactRemainder (dividend divisor : ℚ) : ℚ :=
  dividend - divisor * truncated (dividend / divisor)

theorem truncated_neg (number : ℚ) : truncated (-number) = -truncated number := by
  rw [truncated, truncated]
  rcases lt_trichotomy number 0 with negative | zero | positive
  · rw [if_neg (by linarith), if_pos negative, Int.floor_neg]
  · rw [zero, neg_zero, if_neg (lt_irrefl 0), Int.floor_zero, neg_zero]
  · rw [if_pos (by linarith), if_neg (by linarith), Int.ceil_neg]

/-- A quotient of naturals is cut off by their division. -/
theorem truncated_natCast_div (numerator denominator : Nat) :
    truncated (numerator / denominator) = (numerator / denominator : Nat) := by
  rw [truncated, if_neg (not_lt.mpr (by positivity)), Rat.floor_natCast_div_natCast,
    Int.natCast_div]

theorem abs_sub_truncated_lt_one (number : ℚ) : |number - truncated number| < 1 := by
  rw [truncated, abs_lt]
  split
  · have above := Int.le_ceil number
    have below := Int.ceil_lt_add_one number
    constructor <;> linarith
  · have above := Int.lt_floor_add_one number
    have below := Int.floor_le number
    constructor <;> linarith

/-- The fraction that is cut off has the sign of the number. -/
theorem sign_sub_truncated (number : ℚ) :
    number - truncated number = 0 ∨
      SignType.sign (number - truncated number) = SignType.sign number := by
  rw [truncated]
  split
  case isTrue negative =>
    rcases (sub_nonpos.mpr (Int.le_ceil number)).eq_or_lt with whole | below
    · exact .inl whole
    · exact .inr (by rw [sign_neg below, sign_neg negative])
  case isFalse nonneg =>
    rcases (sub_nonneg.mpr (Int.floor_le number)).eq_or_lt with whole | above
    · exact .inl whole.symm
    · have floor : (0 : ℚ) ≤ ⌊number⌋ :=
        Int.cast_nonneg (Int.floor_nonneg.mpr (not_lt.mp nonneg))
      have positive : 0 < number := by linarith
      exact .inr (by rw [sign_pos above, sign_pos positive])

section

variable {dividend divisor : ℚ}

private theorem exactRemainder_eq_mul (nonzero : divisor ≠ 0) :
    exactRemainder dividend divisor =
      divisor * (dividend / divisor - truncated (dividend / divisor)) := by
  rw [exactRemainder, mul_sub, mul_div_cancel₀ dividend nonzero]

theorem abs_exactRemainder_lt (nonzero : divisor ≠ 0) :
    |exactRemainder dividend divisor| < |divisor| := by
  rw [exactRemainder_eq_mul nonzero, abs_mul]
  exact mul_lt_of_lt_one_right (abs_pos.mpr nonzero) (abs_sub_truncated_lt_one _)

/-- A remainder is zero, or has the sign of the dividend. -/
theorem sign_exactRemainder (nonzero : divisor ≠ 0) :
    exactRemainder dividend divisor = 0 ∨
      SignType.sign (exactRemainder dividend divisor) = SignType.sign dividend := by
  rw [exactRemainder_eq_mul nonzero]
  rcases sign_sub_truncated (dividend / divisor) with whole | sameSign
  · exact .inl (by rw [whole, mul_zero])
  · refine .inr ?_
    rw [sign_mul, sameSign, ← sign_mul, mul_div_cancel₀ dividend nonzero]

theorem exactRemainder_neg_left :
    exactRemainder (-dividend) divisor = -exactRemainder dividend divisor := by
  rw [exactRemainder, neg_div, truncated_neg, exactRemainder]
  push_cast
  ring

/-- The sign of the divisor does not matter. -/
theorem exactRemainder_neg_right :
    exactRemainder dividend (-divisor) = exactRemainder dividend divisor := by
  rw [exactRemainder, div_neg, truncated_neg, exactRemainder]
  push_cast
  ring

/-- Multiples of one unit leave the remainder of their numbers of units. -/
theorem exactRemainder_units (dividend : Nat) {divisor scale : Nat}
    (positive : 0 < scale) :
    exactRemainder (dividend / scale) (divisor / scale) =
      ((dividend % divisor : Nat) : ℚ) / scale := by
  have nonzero : (scale : ℚ) ≠ 0 := Nat.cast_ne_zero.mpr (Nat.ne_of_gt positive)
  have parted : (dividend : ℚ) =
      divisor * (dividend / divisor : Nat) + (dividend % divisor : Nat) := by
    exact_mod_cast (Nat.div_add_mod dividend divisor).symm
  rw [exactRemainder, div_div_div_cancel_right₀ nonzero, truncated_natCast_div, Int.cast_natCast]
  conv_lhs => rw [parted]
  ring

end

/-! ### Doubles -/

namespace Binary64

/-- The sign bit, which the two zeros differ in. -/
def isNegative : Binary64 → Bool
  | .nan => false
  | .infinite negative => negative
  | .finite negative _ => negative

theorem isZero_iff {value : Binary64} :
    value.isZero = true ↔ ∃ negative, value = .finite negative .zero := by
  constructor
  · intro isZero
    match value with
    | .finite negative magnitude =>
        have noUnits : magnitude = .zero := Magnitude.ext_units (beq_iff_eq.mp isZero)
        exact ⟨negative, by rw [noUnits]⟩
  · rintro ⟨negative, rfl⟩
    rfl

theorem toRat_eq_zero_iff {value : Binary64} (isFinite : value.isFinite = true) :
    value.toRat = 0 ↔ value.isZero = true := by
  match value with
  | .finite negative magnitude =>
      have nonzero : (unitsPerOne : ℚ) ≠ 0 :=
        Nat.cast_ne_zero.mpr (Nat.ne_of_gt unitsPerOne_pos)
      rw [toRat_finite, isZero, beq_iff_eq]
      cases negative <;> simp [nonzero]

/-- A finite double is told by its number and its sign bit. -/
theorem eq_of_toRat_eq {first second : Binary64} (firstFinite : first.isFinite = true)
    (secondFinite : second.isFinite = true) (sameNumber : first.toRat = second.toRat)
    (sameSign : first.isNegative = second.isNegative) : first = second := by
  match first, second with
  | .finite negative left, .finite _ right =>
      have nonzero : (unitsPerOne : ℚ) ≠ 0 :=
        Nat.cast_ne_zero.mpr (Nat.ne_of_gt unitsPerOne_pos)
      cases sameSign
      rw [toRat_finite, toRat_finite] at sameNumber
      have units : left.units = right.units := by
        cases negative <;> simpa [nonzero] using sameNumber
      exact congrArg (finite negative) (Magnitude.ext_units units)

/-- The exact remainder of two doubles, with the sign bit of the dividend. -/
structure IsRemainder (result dividend divisor : Binary64) : Prop where
  isFinite : result.isFinite = true
  toRat_eq : result.toRat =
    dividend.toRat - divisor.toRat * truncated (dividend.toRat / divisor.toRat)
  isNegative_eq : result.isNegative = dividend.isNegative

/-- The numbers of finite doubles leave the number of the remainder of their units. -/
theorem exactRemainder_toRat (leftNegative rightNegative : Bool) (left right : Magnitude) :
    exactRemainder (finite leftNegative left).toRat (finite rightNegative right).toRat =
      (finite leftNegative (left.mod right)).toRat := by
  have units : exactRemainder (left.units / unitsPerOne) (right.units / unitsPerOne) =
      ((left.mod right).units : ℚ) / unitsPerOne :=
    exactRemainder_units left.units unitsPerOne_pos
  have unsigned : exactRemainder (left.units / unitsPerOne) (finite rightNegative right).toRat =
      ((left.mod right).units : ℚ) / unitsPerOne := by
    rw [toRat_finite]
    cases rightNegative with
    | false => exact units
    | true => exact exactRemainder_neg_right.trans units
  rw [toRat_finite leftNegative, toRat_finite leftNegative]
  cases leftNegative with
  | false => exact unsigned
  | true => exact exactRemainder_neg_left.trans (congrArg Neg.neg unsigned)

namespace IsRemainder

variable {result dividend divisor : Binary64}

/-- Two doubles have at most one remainder. -/
theorem unique {other : Binary64} (isResult : result.IsRemainder dividend divisor)
    (isOther : other.IsRemainder dividend divisor) : other = result :=
  eq_of_toRat_eq isOther.isFinite isResult.isFinite
    (isOther.toRat_eq.trans isResult.toRat_eq.symm)
    (isOther.isNegative_eq.trans isResult.isNegative_eq.symm)

theorem abs_lt (isResult : result.IsRemainder dividend divisor) (nonzero : divisor.toRat ≠ 0) :
    |result.toRat| < |divisor.toRat| := by
  rw [isResult.toRat_eq]
  exact abs_exactRemainder_lt nonzero

private theorem exists_multiple (isResult : result.IsRemainder dividend divisor) :
    ∃ multiple : ℤ, dividend.toRat = result.toRat + multiple * divisor.toRat := by
  refine ⟨truncated (dividend.toRat / divisor.toRat), ?_⟩
  rw [isResult.toRat_eq]
  ring

private theorem isZero_or_sign_eq (isResult : result.IsRemainder dividend divisor)
    (nonzero : divisor.toRat ≠ 0) :
    result.isZero = true ∨ SignType.sign result.toRat = SignType.sign dividend.toRat := by
  rw [← toRat_eq_zero_iff isResult.isFinite, isResult.toRat_eq]
  exact sign_exactRemainder nonzero

end IsRemainder

/-! ### The operation -/

variable {dividend divisor : Binary64}

/-- The remainder of the units is the exact remainder of the doubles. -/
theorem isRemainder_rem (dividendFinite : dividend.isFinite = true)
    (divisorFinite : divisor.isFinite = true) (nonzero : divisor.isZero = false) :
    (dividend.rem divisor).IsRemainder dividend divisor := by
  match dividend, divisor with
  | .finite leftNegative left, .finite rightNegative right =>
      have someUnits : right.units ≠ 0 := beq_eq_false_iff_ne.mp nonzero
      rw [rem, if_neg someUnits]
      exact ⟨rfl, (exactRemainder_toRat leftNegative rightNegative left right).symm, rfl⟩

theorem rem_infinite (dividendFinite : dividend.isFinite = true) (negative : Bool) :
    dividend.rem (.infinite negative) = dividend := by
  match dividend with
  | .finite _ _ => rfl

theorem rem_eq_nan
    (undefined : (∃ negative, dividend = .infinite negative) ∨ dividend = .nan ∨ divisor = .nan) :
    dividend.rem divisor = .nan := by
  rcases undefined with ⟨negative, rfl⟩ | rfl | rfl
  · cases divisor <;> rfl
  · cases divisor <;> rfl
  · cases dividend <;> rfl

end Binary64

/-! ### The operator -/

variable {dividend divisor : Binary64}

private theorem calculate_remainder_of_isZero (isZero : divisor.isZero = true) :
    calculate dividend divisor "%" = .error (.divisionByZero "%") :=
  (calculate_symbol .remainder dividend divisor).trans (if_pos isZero)

private theorem calculate_remainder_of_not_isZero (nonzero : divisor.isZero = false) :
    calculate dividend divisor "%" = .ok (dividend.rem divisor) :=
  (calculate_symbol .remainder dividend divisor).trans (if_neg (Bool.eq_false_iff.mp nonzero))

/-- The two zeros are refused as divisors, and nothing else is. -/
theorem calculate_remainder_eq_error_iff {cause : EvalError} :
    calculate dividend divisor "%" = .error cause ↔
      cause = .divisionByZero "%" ∧ ∃ negative, divisor = .finite negative .zero := by
  rw [← Binary64.isZero_iff]
  cases isZero : divisor.isZero with
  | true =>
      rw [calculate_remainder_of_isZero isZero, Except.error.injEq]
      exact ⟨fun same => ⟨same.symm, rfl⟩, fun same => same.1.symm⟩
  | false =>
      rw [calculate_remainder_of_not_isZero isZero]
      constructor
      · intro impossible
        cases impossible
      · intro impossible
        cases impossible.2

/-- **The remainder is exact.** Of two finite doubles, the divisor not zero, the operator
returns the one double whose number is the dividend less the divisor times their
quotient, cut off, and whose sign bit is that of the dividend. It lies nearer to zero
than the divisor, differs from the dividend by a whole multiple of the divisor, and is
zero or has the sign of the dividend. An infinite divisor leaves a finite dividend as it
is; an infinite dividend or a NaN on either side gives NaN. The two zeros are refused as
divisors of every dividend, and nothing else is. -/
theorem calculate_remainder_exact (dividend divisor : Binary64) :
    (dividend.isFinite = true → divisor.isFinite = true → divisor.isZero = false →
      ∃ result, calculate dividend divisor "%" = .ok result ∧
        (∀ other : Binary64, other.IsRemainder dividend divisor ↔ other = result) ∧
        |result.toRat| < |divisor.toRat| ∧
        (∃ multiple : ℤ, dividend.toRat = result.toRat + multiple * divisor.toRat) ∧
        (result.isZero = true ∨
          SignType.sign result.toRat = SignType.sign dividend.toRat)) ∧
    (∀ negative, dividend.isFinite = true →
      calculate dividend (.infinite negative) "%" = .ok dividend) ∧
    (divisor.isZero = false →
      (∃ negative, dividend = .infinite negative) ∨ dividend = .nan ∨ divisor = .nan →
        calculate dividend divisor "%" = .ok .nan) ∧
    ∀ cause, calculate dividend divisor "%" = .error cause ↔
      cause = .divisionByZero "%" ∧ ∃ negative, divisor = .finite negative .zero := by
  refine ⟨?_, ?_, ?_, fun cause => calculate_remainder_eq_error_iff⟩
  · intro dividendFinite divisorFinite nonzero
    have isRemainder := Binary64.isRemainder_rem dividendFinite divisorFinite nonzero
    have someNumber : divisor.toRat ≠ 0 := by
      rw [Ne, Binary64.toRat_eq_zero_iff divisorFinite, nonzero]
      exact Bool.false_ne_true
    refine ⟨dividend.rem divisor, calculate_remainder_of_not_isZero nonzero, fun other => ?_,
      isRemainder.abs_lt someNumber, isRemainder.exists_multiple,
      isRemainder.isZero_or_sign_eq someNumber⟩
    exact ⟨isRemainder.unique, fun same => same ▸ isRemainder⟩
  · intro negative dividendFinite
    rw [calculate_remainder_of_not_isZero rfl, Binary64.rem_infinite dividendFinite]
  · intro nonzero undefined
    rw [calculate_remainder_of_not_isZero nonzero, Binary64.rem_eq_nan undefined]

-- The sign is that of the dividend, also where nothing is left.
example :
    calculate (Binary64.ofNat 7).neg (Binary64.ofNat 3) "%" = .ok Binary64.one.neg ∧
      calculate (Binary64.ofNat 6).neg (Binary64.ofNat 3) "%" = .ok Binary64.zero.neg := by
  decide +kernel

end Reckoner
