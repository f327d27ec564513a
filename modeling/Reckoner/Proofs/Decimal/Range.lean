import Reckoner.Decimal.Shortest

/-!
Contract: how large and how small a decimal can be that rounds to a finite
double.

A value of `2 ^ 1024` or more rounds to an infinity, and one below half a unit
rounds to zero. So the first digit of a decimal that rounds to any other double
counts a power of ten between `10 ^ -400` and `10 ^ 400`, and that of the
shortest decimal does so for every finite double.

Owns: rounding far up and far down, and the bounds on leading exponents.

Does not own: how a decimal is written.
-/

namespace Reckoner

-- A power of naturals is that of the core library, also where algebra is in scope.
attribute [local instance (high)] instPowNat

/-! ### Rounding at the ends -/

namespace Binary64

variable {numerator denominator exponent : Nat}

theorem roundUnits_eq_zero (small : 2 * numerator < denominator) :
    roundUnits numerator denominator = 0 := by
  have below : numerator < denominator := by omega
  have quotient : numerator / denominator = 0 := Nat.div_eq_of_lt below
  have gap : spacing 0 = 1 := rfl
  rw [roundUnits, quotient, gap, Nat.mul_one, Nat.mul_one]
  simp [roundHalfEven, quotient, Nat.mod_eq_of_lt below, small]

/-- Rounding does not fall below a power of two. -/
theorem two_pow_le_roundUnits (large : 2 ^ exponent ≤ numerator / denominator) :
    2 ^ exponent ≤ roundUnits numerator denominator := by
  have positive : numerator / denominator ≠ 0 :=
    Nat.ne_of_gt (Nat.lt_of_lt_of_le (Nat.two_pow_pos exponent) large)
  have onGrid : spacing (numerator / denominator) ∣ 2 ^ (numerator / denominator).log2 :=
    Nat.pow_dvd_pow 2 (Nat.sub_le _ _)
  calc
    2 ^ exponent ≤ 2 ^ (numerator / denominator).log2 :=
      Nat.pow_le_pow_right (by decide) ((Nat.le_log2 positive).2 large)
    _ = 2 ^ (numerator / denominator).log2 / spacing (numerator / denominator) *
          spacing (numerator / denominator) := (Nat.div_mul_cancel onGrid).symm
    _ ≤ numerator / denominator / spacing (numerator / denominator) *
          spacing (numerator / denominator) :=
      Nat.mul_le_mul_right _ (Nat.div_le_div_right (Nat.log2_self_le positive))
    _ = numerator / (denominator * spacing (numerator / denominator)) *
          spacing (numerator / denominator) := by rw [Nat.div_div_eq_div_mul]
    _ ≤ roundUnits numerator denominator := Nat.mul_le_mul_right _ (le_roundHalfEven _ _)

end Binary64

/-! ### Digits -/

namespace Decimal

open Binary64 (limitExponent oneExponent)

variable {decimal : Decimal} {magnitude : Binary64.Magnitude}

theorem length_digits_pos (decimal : Decimal) : 0 < decimal.digits.length :=
  List.length_pos_iff.2 Nat.toDigits_ne_nil

private theorem coefficient_lt_pow (decimal : Decimal) :
    decimal.coefficient < 10 ^ decimal.digits.length :=
  (Nat.length_toDigits_le_iff (by decide) decimal.length_digits_pos).1 (Nat.le_refl _)

private theorem pow_le_coefficient (nonzero : decimal.coefficient ≠ 0) :
    10 ^ (decimal.digits.length - 1) ≤ decimal.coefficient := by
  by_cases single : decimal.digits.length - 1 = 0
  · rw [single, Nat.pow_zero]
    exact Nat.pos_of_ne_zero nonzero
  · refine Nat.le_of_not_lt fun below => ?_
    have shorter : decimal.digits.length ≤ decimal.digits.length - 1 :=
      (Nat.length_toDigits_le_iff (by decide) (Nat.pos_of_ne_zero single)).2 below
    have some := decimal.length_digits_pos
    omega

/-! ### Leading exponents -/

theorem unitLimit_eq :
    Binary64.unitLimit = 2 ^ (limitExponent - oneExponent) * Binary64.unitsPerOne := by
  unfold Binary64.unitLimit Binary64.unitsPerOne
  rw [← Nat.pow_add, Nat.sub_add_cancel (by decide)]

/-- A decimal that rounds to a finite value lies below the limit of these. -/
theorem lt_of_roundsTo (rounds : decimal.RoundsTo magnitude) :
    decimal.coefficient * 10 ^ decimal.exponent.toNat <
      2 ^ (limitExponent - oneExponent) * 10 ^ (-decimal.exponent).toNat := by
  have quotient : decimal.unitNumerator / decimal.unitDenominator < Binary64.unitLimit := by
    refine Nat.lt_of_not_le fun large => ?_
    have finite := magnitude.representable.2
    rw [← rounds] at finite
    unfold Binary64.unitLimit at large finite
    exact Nat.not_lt_of_le (Binary64.two_pow_le_roundUnits large) finite
  rw [Nat.div_lt_iff_lt_mul decimal.unitDenominator_pos, unitLimit_eq, unitNumerator,
    unitDenominator, Nat.mul_right_comm (2 ^ (limitExponent - oneExponent))] at quotient
  exact Nat.lt_of_mul_lt_mul_right quotient

/-- A decimal that does not round to zero is at least half a unit. -/
theorem le_of_roundsTo (rounds : decimal.RoundsTo magnitude) (nonzero : magnitude.units ≠ 0) :
    10 ^ (-decimal.exponent).toNat ≤
      decimal.coefficient * 10 ^ decimal.exponent.toNat * 2 ^ (oneExponent + 1) := by
  have atLeast : decimal.unitDenominator ≤ 2 * decimal.unitNumerator :=
    Nat.le_of_not_lt fun small => nonzero (rounds.symm.trans (Binary64.roundUnits_eq_zero small))
  have doubled : 2 * Binary64.unitsPerOne = 2 ^ (oneExponent + 1) := by
    unfold Binary64.unitsPerOne
    rw [Nat.pow_succ, Nat.mul_comm]
  rw [unitNumerator, unitDenominator, Nat.mul_left_comm, doubled] at atLeast
  exact atLeast

theorem coefficient_ne_zero_of_roundsTo (rounds : decimal.RoundsTo magnitude)
    (nonzero : magnitude.units ≠ 0) : decimal.coefficient ≠ 0 := by
  intro zero
  have above := le_of_roundsTo rounds nonzero
  rw [zero, Nat.zero_mul, Nat.zero_mul] at above
  exact Nat.not_lt_of_le above (Nat.pow_pos (by decide))

/-- A bound on the power of ten that the first digit counts, from one power of
ten that covers the powers of two at both ends. -/
theorem leadingExponent_of_roundsTo {bound : Nat} (covers : 2 ^ (oneExponent + 1) ≤ 10 ^ bound)
    (rounds : decimal.RoundsTo magnitude) (nonzero : magnitude.units ≠ 0) :
    -(bound : Int) ≤ decimal.leadingExponent ∧ decimal.leadingExponent ≤ bound := by
  have coversBelow : 2 ^ (limitExponent - oneExponent) ≤ 10 ^ bound :=
    Nat.le_trans (Nat.pow_le_pow_right (by decide) (by decide)) covers
  have below := lt_of_roundsTo rounds
  have above := le_of_roundsTo rounds nonzero
  have positive := coefficient_ne_zero_of_roundsTo rounds nonzero
  have upper : 10 ^ (decimal.digits.length - 1 + decimal.exponent.toNat) <
      10 ^ (bound + (-decimal.exponent).toNat) :=
    calc
      10 ^ (decimal.digits.length - 1 + decimal.exponent.toNat) =
          10 ^ (decimal.digits.length - 1) * 10 ^ decimal.exponent.toNat := Nat.pow_add ..
      _ ≤ decimal.coefficient * 10 ^ decimal.exponent.toNat :=
        Nat.mul_le_mul_right _ (pow_le_coefficient positive)
      _ < 2 ^ (limitExponent - oneExponent) * 10 ^ (-decimal.exponent).toNat := below
      _ ≤ 10 ^ bound * 10 ^ (-decimal.exponent).toNat := Nat.mul_le_mul_right _ coversBelow
      _ = 10 ^ (bound + (-decimal.exponent).toNat) := (Nat.pow_add ..).symm
  have lower : 10 ^ (-decimal.exponent).toNat <
      10 ^ (decimal.digits.length + decimal.exponent.toNat + bound) :=
    calc
      10 ^ (-decimal.exponent).toNat ≤
          decimal.coefficient * 10 ^ decimal.exponent.toNat * 2 ^ (oneExponent + 1) := above
      _ < 10 ^ decimal.digits.length * 10 ^ decimal.exponent.toNat * 2 ^ (oneExponent + 1) :=
        Nat.mul_lt_mul_of_pos_right
          (Nat.mul_lt_mul_of_pos_right decimal.coefficient_lt_pow (Nat.pow_pos (by decide)))
          (Nat.two_pow_pos _)
      _ ≤ 10 ^ decimal.digits.length * 10 ^ decimal.exponent.toNat * 10 ^ bound :=
        Nat.mul_le_mul_left _ covers
      _ = 10 ^ (decimal.digits.length + decimal.exponent.toNat + bound) := by
        rw [← Nat.pow_add, ← Nat.pow_add]
  have upperPowers := (Nat.pow_lt_pow_iff_right (by decide)).1 upper
  have lowerPowers := (Nat.pow_lt_pow_iff_right (by decide)).1 lower
  have some := decimal.length_digits_pos
  rw [leadingExponent]
  omega

/-- **The leading exponent of a shortest decimal has at most three digits.** -/
theorem leadingExponent_shortest (magnitude : Binary64.Magnitude) :
    -400 ≤ (shortest magnitude).leadingExponent ∧ (shortest magnitude).leadingExponent ≤ 400 := by
  by_cases zero : magnitude.units = 0
  · rw [shortest, if_pos zero]
    decide
  · exact leadingExponent_of_roundsTo (by decide +kernel) (shortest_roundsTo magnitude) zero

end Decimal

end Reckoner
