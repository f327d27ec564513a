import Reckoner.Binary64.Basic

/-!
Contract: finite decimal numbers.

A decimal is a natural number times a power of ten. It has many spellings of
one value; `trim` chooses the one whose coefficient does not end in zero.

Owns: the type, its place on the scale of binary64 units, the double nearest
to it, and the removal of trailing zeros.

Does not own: numerals as text, or the choice of a decimal for a double.
-/

namespace Reckoner

/-- The number `coefficient * 10 ^ exponent`. -/
structure Decimal where
  coefficient : Nat
  exponent : Int := 0
deriving DecidableEq, Inhabited

namespace Decimal

-- A power of naturals is that of the core library, also where algebra is in scope.
attribute [local instance (high)] instPowNat

open Binary64 (roundUnits roundUnits_eq_of_cross unitsPerOne)

/-- The value in binary64 units is `unitNumerator / unitDenominator`. -/
def unitNumerator (decimal : Decimal) : Nat :=
  decimal.coefficient * 10 ^ decimal.exponent.toNat * Binary64.unitsPerOne

def unitDenominator (decimal : Decimal) : Nat :=
  10 ^ (-decimal.exponent).toNat

/-- The double nearest to the decimal, with the given sign. -/
def toBinary64 (negative : Bool) (decimal : Decimal) : Binary64 :=
  Binary64.ofUnits negative decimal.unitNumerator decimal.unitDenominator

/-- A decimal rounds to a magnitude when no other double is as near to it, or
when it lies halfway and the magnitude is the even choice. -/
def RoundsTo (decimal : Decimal) (magnitude : Binary64.Magnitude) : Prop :=
  Binary64.roundUnits decimal.unitNumerator decimal.unitDenominator = magnitude.units

instance (decimal : Decimal) (magnitude : Binary64.Magnitude) :
    Decidable (decimal.RoundsTo magnitude) :=
  inferInstanceAs (Decidable (_ = _))

/-- The same value without trailing zeros in the coefficient. -/
def trim (decimal : Decimal) : Decimal :=
  if divisible : 0 < decimal.coefficient ∧ decimal.coefficient % 10 = 0 then
    trim ⟨decimal.coefficient / 10, decimal.exponent + 1⟩
  else
    decimal
termination_by decimal.coefficient
decreasing_by exact Nat.div_lt_self divisible.1 (by decide)

/-- The decimal digits of the coefficient. -/
def digits (decimal : Decimal) : List Char :=
  Nat.toDigits 10 decimal.coefficient

/-- The power of ten that the first digit counts. -/
def leadingExponent (decimal : Decimal) : Int :=
  decimal.exponent + decimal.digits.length - 1

theorem unitDenominator_pos (decimal : Decimal) : 0 < decimal.unitDenominator :=
  Nat.pow_pos (by decide)

/-- Trailing zeros do not change where a decimal rounds to. -/
theorem roundsTo_trim {decimal : Decimal} {magnitude : Binary64.Magnitude}
    (rounds : decimal.RoundsTo magnitude) : decimal.trim.RoundsTo magnitude := by
  fun_induction trim decimal with
  | case1 decimal divisible inductionHypothesis =>
      apply inductionHypothesis
      -- One factor of ten moves from the coefficient into the power.
      have shorter :
          10 * (decimal.coefficient / 10) = decimal.coefficient := by omega
      have same :
          roundUnits (unitNumerator ⟨decimal.coefficient / 10, decimal.exponent + 1⟩)
              (unitDenominator ⟨decimal.coefficient / 10, decimal.exponent + 1⟩) =
            roundUnits decimal.unitNumerator decimal.unitDenominator := by
        apply roundUnits_eq_of_cross (unitDenominator_pos _) (unitDenominator_pos _)
        simp only [unitNumerator, unitDenominator]
        by_cases negative : decimal.exponent < 0
        · have powers : (-decimal.exponent).toNat = (-(decimal.exponent + 1)).toNat + 1 := by
            omega
          have noPower : (decimal.exponent + 1).toNat = 0 := by omega
          have alsoNone : decimal.exponent.toNat = 0 := by omega
          rw [powers, noPower, alsoNone, Nat.pow_succ]
          calc
            decimal.coefficient / 10 * 10 ^ 0 * unitsPerOne *
                (10 ^ (-(decimal.exponent + 1)).toNat * 10) =
              10 * (decimal.coefficient / 10) * 10 ^ 0 * unitsPerOne *
                10 ^ (-(decimal.exponent + 1)).toNat := by
                  simp only [Nat.pow_zero, Nat.mul_one]
                  ac_rfl
            _ = _ := by rw [shorter]
        · have powers : (decimal.exponent + 1).toNat = decimal.exponent.toNat + 1 := by omega
          have noPower : (-decimal.exponent).toNat = 0 := by omega
          have alsoNone : (-(decimal.exponent + 1)).toNat = 0 := by omega
          rw [powers, noPower, alsoNone, Nat.pow_succ]
          calc
            decimal.coefficient / 10 * (10 ^ decimal.exponent.toNat * 10) * unitsPerOne * 10 ^ 0 =
              10 * (decimal.coefficient / 10) * 10 ^ decimal.exponent.toNat * unitsPerOne *
                10 ^ 0 := by
                  simp only [Nat.pow_zero, Nat.mul_one]
                  ac_rfl
            _ = _ := by rw [shorter]
      exact same.trans rounds
  | case2 => exact rounds

/-- A decimal that rounds to a magnitude is read as that magnitude. -/
theorem toBinary64_of_roundsTo {decimal : Decimal} {magnitude : Binary64.Magnitude}
    (negative : Bool) (rounds : decimal.RoundsTo magnitude) :
    decimal.toBinary64 negative = .finite negative magnitude := by
  have same := rounds
  simp only [RoundsTo] at same
  simp only [toBinary64, Binary64.ofUnits, same, magnitude.representable.2, dif_pos]

end Decimal

end Reckoner
