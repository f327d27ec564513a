import Mathlib.Data.Nat.Cast.Order.Field
import Reckoner.Proofs.Decimal.Exact

/-!
Contract: rounding goes to the nearest double, and of two that are equally near
to the even one.

A quotient is rounded to a multiple of the gap between the doubles around it.
A double on a finer grid lies below the last power of two before the quotient,
and that power is nearer and on the grid. Main statement: the double that a
decimal rounds to is preferred to every other finite double.

Owns: the preference between two numbers, and that rounding follows it.

Does not own: which decimal is rounded.
-/

namespace Reckoner

-- A power of naturals is that of the core library, also where algebra is in scope.
attribute [local instance (high)] instPowNat

open Binary64 (Magnitude roundUnits spacing unitsPerOne)

/-! ### Preference -/

/-- The chosen number is nearer than the other one, or as near, and then it is
the same or the even one. -/
def Preferred (number : ℚ) (even : Prop) (chosen other : ℚ) : Prop :=
  |number - chosen| < |number - other| ∨
    |number - chosen| = |number - other| ∧ (other = chosen ∨ even)

namespace Preferred

variable {number chosen other : ℚ} {even : Prop}

/-- The preference between natural numbers. -/
theorem of_natAbs {number chosen other : Nat}
    (prefers : ((number : ℤ) - chosen).natAbs < ((number : ℤ) - other).natAbs ∨
      ((number : ℤ) - chosen).natAbs = ((number : ℤ) - other).natAbs ∧ (other = chosen ∨ even)) :
    Preferred number even chosen other := by
  have distance (left right : Nat) : |(left : ℚ) - right| = (((left : ℤ) - right).natAbs : ℕ) := by
    rw [Nat.cast_natAbs, Int.cast_abs, Int.cast_sub, Int.cast_natCast, Int.cast_natCast]
  rw [Preferred, distance, distance, Nat.cast_lt, Nat.cast_inj, Nat.cast_inj]
  exact prefers

theorem le (preferred : Preferred number even chosen other) :
    |number - chosen| ≤ |number - other| :=
  preferred.elim le_of_lt fun ⟨same, _⟩ => le_of_eq same

theorem mono {weaker : Prop} (preferred : Preferred number even chosen other)
    (implies : even → weaker) : Preferred number weaker chosen other :=
  preferred.imp_right fun ⟨same, chooses⟩ => ⟨same, chooses.imp_right implies⟩

theorem mul (preferred : Preferred number even chosen other) {scale : ℚ} (positive : 0 < scale) :
    Preferred (number * scale) even (chosen * scale) (other * scale) := by
  have scaled (point : ℚ) : |number * scale - point * scale| = |number - point| * scale := by
    rw [← sub_mul, abs_mul, abs_of_pos positive]
  rcases preferred with nearer | ⟨same, chooses⟩
  · refine .inl ?_
    rw [scaled, scaled]
    exact mul_lt_mul_of_pos_right nearer positive
  · refine .inr ⟨?_, chooses.imp_left (congrArg (· * scale))⟩
    rw [scaled, scaled, same]

theorem neg (preferred : Preferred number even chosen other) :
    Preferred (-number) even (-chosen) (-other) := by
  have mirrored (point : ℚ) : |-number - -point| = |number - point| := by
    rw [neg_sub_neg, abs_sub_comm]
  rcases preferred with nearer | ⟨same, chooses⟩
  · refine .inl ?_
    rw [mirrored, mirrored]
    exact nearer
  · refine .inr ⟨?_, chooses.imp_left (congrArg Neg.neg)⟩
    rw [mirrored, mirrored, same]

/-- What is preferred to a number below is preferred to all that lies further off. -/
theorem beyond (preferred : Preferred number even chosen other) {further : ℚ}
    (below : further < other) (reached : other ≤ number) :
    Preferred number even chosen further := by
  refine .inl (preferred.le.trans_lt ?_)
  rw [abs_of_nonneg (sub_nonneg.mpr reached),
    abs_of_nonneg (sub_nonneg.mpr (below.le.trans reached))]
  exact sub_lt_sub_left below number

end Preferred

/-! ### Integers -/

section Integers

variable {numerator denominator : Nat}

/-- The rounding is at most half a step away, and even where it is that far. -/
theorem roundHalfEven_within (numerator : Nat) (positive : 0 < denominator) :
    let rounded := roundHalfEven numerator denominator
    2 * numerator ≤ 2 * (rounded * denominator) + denominator ∧
      2 * (rounded * denominator) ≤ 2 * numerator + denominator ∧
        (2 * numerator = 2 * (rounded * denominator) + denominator ∨
          2 * (rounded * denominator) = 2 * numerator + denominator → rounded % 2 = 0) := by
  have whole := Nat.div_add_mod' numerator denominator
  have rest := Nat.mod_lt numerator positive
  have next : (numerator / denominator + 1) * denominator =
      numerator / denominator * denominator + denominator := Nat.succ_mul _ _
  unfold roundHalfEven
  dsimp only
  split
  · omega
  · split
    · rw [next]
      omega
    · rcases Nat.mod_two_eq_zero_or_one (numerator / denominator) with even | odd
      · rw [even, Nat.add_zero]
        omega
      · rw [odd, next]
        omega

/-- No integer is preferred to the rounding. -/
theorem roundHalfEven_preferred (numerator other : Nat) (positive : 0 < denominator) :
    Preferred ((numerator : ℚ) / denominator) (roundHalfEven numerator denominator % 2 = 0)
      (roundHalfEven numerator denominator : Nat) other := by
  obtain ⟨above, below, even⟩ := roundHalfEven_within numerator positive
  generalize roundHalfEven numerator denominator = rounded at above below even ⊢
  have scaled : Preferred ((2 * numerator : Nat) : ℚ) (rounded % 2 = 0)
      ((2 * (rounded * denominator) : Nat) : ℚ) ((2 * (other * denominator) : Nat) : ℚ) := by
    apply Preferred.of_natAbs
    -- Another integer is a whole step away from the rounding.
    rcases Nat.lt_trichotomy other rounded with smaller | rfl | larger
    · have apart := Nat.mul_le_mul_right denominator (Nat.succ_le_of_lt smaller)
      rw [Nat.succ_mul] at apart
      omega
    · exact .inr ⟨rfl, .inl rfl⟩
    · have apart := Nat.mul_le_mul_right denominator (Nat.succ_le_of_lt larger)
      rw [Nat.succ_mul] at apart
      omega
  have step : (0 : ℚ) < denominator := Nat.cast_pos.mpr positive
  have unscaled (count : Nat) :
      ((2 * (count * denominator) : Nat) : ℚ) * (1 / (2 * denominator)) = count := by
    push_cast
    field_simp
  have quotient : ((2 * numerator : Nat) : ℚ) * (1 / (2 * denominator)) =
      (numerator : ℚ) / denominator := by
    push_cast
    field_simp
  have preferred := scaled.mul (show (0 : ℚ) < 1 / (2 * denominator) by positivity)
  rwa [unscaled, unscaled, quotient] at preferred

end Integers

/-! ### Grid points -/

namespace Binary64

/-- The last significant bit of a grid point is zero. -/
def LastBitZero (units : Nat) : Prop :=
  units / spacing units % 2 = 0

/-- An even number of steps ends on a point with an even significand, also at the
next power of two, where the steps become longer. -/
theorem lastBitZero_mul {count exponent : Nat} (bounded : count ≤ 2 ^ (53 : Nat))
    (even : count % 2 = 0) : LastBitZero (count * 2 ^ exponent) := by
  rcases Nat.lt_or_eq_of_le bounded with below | top
  · rw [LastBitZero, Nat.mul_div_assoc _ (spacing_dvd_two_pow below), Nat.mul_mod, even,
      Nat.zero_mul, Nat.zero_mod]
  · have bits : 53 + exponent - (53 + exponent - 52) = 52 := by omega
    rw [LastBitZero, top, ← Nat.pow_add, spacing, Nat.log2_two_pow,
      Nat.pow_div (Nat.sub_le _ _) (by decide), bits]

variable {numerator denominator other : Nat}

/-- No multiple of the gap around the quotient is preferred to the rounding. -/
theorem roundUnits_preferred_mul (numerator count : Nat) (positive : 0 < denominator) :
    Preferred ((numerator : ℚ) / denominator) (LastBitZero (roundUnits numerator denominator))
      (roundUnits numerator denominator : Nat)
      ((count * spacing (numerator / denominator) : Nat) : ℚ) := by
  have bounded := roundHalfEven_spacing_le numerator denominator
  have gap := spacing_pos (numerator / denominator)
  have gapPositive : (0 : ℚ) < spacing (numerator / denominator) := Nat.cast_pos.mpr gap
  have preferred := (roundHalfEven_preferred numerator count (Nat.mul_pos positive gap)).mul
    gapPositive
  have quotient : (numerator : ℚ) / (denominator * spacing (numerator / denominator) : Nat) *
      spacing (numerator / denominator) = numerator / denominator := by
    push_cast
    field_simp
  rw [quotient, ← Nat.cast_mul, ← Nat.cast_mul] at preferred
  exact preferred.mono (lastBitZero_mul bounded)

/-- No grid point at all is preferred to it. -/
theorem roundUnits_preferred (numerator : Nat) (positive : 0 < denominator)
    (onGrid : spacing other ∣ other) :
    Preferred ((numerator : ℚ) / denominator) (LastBitZero (roundUnits numerator denominator))
      (roundUnits numerator denominator : Nat) other := by
  have multiple (count : Nat) := roundUnits_preferred_mul numerator count positive
  by_cases coarse : spacing (numerator / denominator) ∣ other
  · rw [← Nat.div_mul_cancel coarse]
    exact multiple _
  · -- Off the grid of the quotient, the point lies below the last power of two before it.
    have below : other < 2 ^ (numerator / denominator).log2 := by
      refine Nat.lt_of_not_le fun large => coarse ?_
      have nonzero : other ≠ 0 := Nat.ne_of_gt (Nat.lt_of_lt_of_le (Nat.two_pow_pos _) large)
      exact Nat.dvd_trans (spacing_dvd_spacing ((Nat.le_log2 nonzero).2 large)) onGrid
    have nonzero : numerator / denominator ≠ 0 := by
      intro zero
      rw [zero] at coarse
      exact coarse (Nat.one_dvd _)
    have power : spacing (numerator / denominator) ∣ 2 ^ (numerator / denominator).log2 :=
      Nat.pow_dvd_pow 2 (Nat.sub_le _ _)
    have reached : ((2 ^ (numerator / denominator).log2 : Nat) : ℚ) ≤ numerator / denominator :=
      (Nat.cast_le.mpr (Nat.log2_self_le nonzero)).trans Nat.cast_div_le
    have preferred := multiple (2 ^ (numerator / denominator).log2 /
      spacing (numerator / denominator))
    rw [Nat.div_mul_cancel power] at preferred
    exact preferred.beyond (Nat.cast_lt.mpr below) reached

end Binary64

/-! ### Decimals and doubles -/

namespace Decimal

variable {decimal : Decimal} {magnitude : Magnitude}

/-- No magnitude is preferred to the one that a decimal rounds to. -/
theorem preferred_of_roundsTo (rounds : decimal.RoundsTo magnitude) (other : Magnitude) :
    Preferred decimal.toRat (Binary64.LastBitZero magnitude.units)
      (magnitude.units / unitsPerOne) (other.units / unitsPerOne) := by
  have one : (0 : ℚ) < 1 / unitsPerOne :=
    one_div_pos.mpr (Nat.cast_pos.mpr Binary64.unitsPerOne_pos)
  have preferred := (Binary64.roundUnits_preferred decimal.unitNumerator
    decimal.unitDenominator_pos other.representable.1).mul one
  rw [rounds, mul_one_div, mul_one_div, mul_one_div, ← decimal.toRat_eq_units] at preferred
  exact preferred

/-- Nor is a number of the other sign, as zero lies before it. -/
theorem preferred_of_nonpos (rounds : decimal.RoundsTo magnitude) {further : ℚ}
    (nonpos : further ≤ 0) :
    Preferred decimal.toRat (Binary64.LastBitZero magnitude.units)
      (magnitude.units / unitsPerOne) further := by
  have preferred := preferred_of_roundsTo rounds .zero
  have zero : (Magnitude.zero.units : ℚ) / unitsPerOne = 0 :=
    (congrArg (· / (unitsPerOne : ℚ)) Nat.cast_zero).trans (zero_div _)
  rw [zero] at preferred
  rcases nonpos.lt_or_eq with below | rfl
  · exact preferred.beyond below decimal.toRat_nonneg
  · exact preferred

end Decimal

namespace Binary64

/-- The value is the number correctly rounded: the finite double nearest to it, and
of two that are equally near the one whose last significant bit is zero. -/
def IsRounded (value : Binary64) (number : ℚ) : Prop :=
  ∀ other : Binary64, other.isFinite = true →
    Preferred number (LastBitZero value.signedUnits.natAbs) value.toRat other.toRat

theorem isRounded_of_roundsTo {decimal : Decimal} {magnitude : Magnitude}
    (rounds : decimal.RoundsTo magnitude) :
    (finite false magnitude).IsRounded decimal.toRat := by
  intro other isFinite
  change Preferred _ (LastBitZero magnitude.units) _ _
  match other, isFinite with
  | .finite false otherMagnitude, _ =>
      rw [toRat_finite, toRat_finite]
      exact Decimal.preferred_of_roundsTo rounds otherMagnitude
  | .finite true otherMagnitude, _ =>
      rw [toRat_finite, toRat_finite]
      refine Decimal.preferred_of_nonpos rounds (neg_nonpos.mpr ?_)
      exact div_nonneg (Nat.cast_nonneg _) (Nat.cast_nonneg _)

theorem isFinite_neg (value : Binary64) : value.neg.isFinite = value.isFinite := by
  cases value <;> rfl

theorem IsRounded.neg {value : Binary64} {number : ℚ} (rounded : value.IsRounded number) :
    value.neg.IsRounded (-number) := by
  intro other isFinite
  have preferred := (rounded other.neg (by rw [isFinite_neg, isFinite])).neg
  rw [toRat_neg, neg_neg] at preferred
  rw [toRat_neg, signedUnits_neg, Int.natAbs_neg]
  exact preferred

end Binary64

/-- **A double is the correct rounding of every signed decimal that rounds to it.** -/
theorem Numeral.isRounded_of_roundsTo {decimal : Decimal} {magnitude : Magnitude}
    (negative : Bool) (rounds : decimal.RoundsTo magnitude) :
    (Binary64.finite negative magnitude).IsRounded (Numeral.toRat ⟨negative, decimal⟩) := by
  have positive := Binary64.isRounded_of_roundsTo rounds
  cases negative with
  | false => exact positive
  | true => exact positive.neg

end Reckoner
