/-!
Contract: rounding of exact quotients to the binary64 grid, in whole units.

A unit is the least positive binary64 value, `2 ^ -1074`, so every finite
value is a natural number of units with a sign. All rounding in this library
is one division of naturals: `roundUnits` rounds a quotient of units to the
nearest value with 53 significant bits, and a quotient halfway between two
such values to the one whose last bit is zero.

Owns: round-half-even division, the spacing of the grid, the predicate
`Representable`, and the proof that rounding lands on the grid.

Does not own: signs, infinities, NaN, or any arithmetic on doubles.
-/

namespace Reckoner

/-- The integer nearest to `numerator / denominator`. A quotient halfway
between two integers goes to the even one. -/
def roundHalfEven (numerator denominator : Nat) : Nat :=
  let quotient := numerator / denominator
  let twiceRemainder := 2 * (numerator % denominator)
  if twiceRemainder < denominator then quotient
  else if denominator < twiceRemainder then quotient + 1
  else quotient + quotient % 2

theorem roundHalfEven_le (numerator denominator : Nat) :
    roundHalfEven numerator denominator ≤ numerator / denominator + 1 := by
  simp only [roundHalfEven]
  split
  · omega
  · split <;> omega

theorem le_roundHalfEven (numerator denominator : Nat) :
    numerator / denominator ≤ roundHalfEven numerator denominator := by
  simp only [roundHalfEven]
  split
  · omega
  · split <;> omega

/-- Rounding changes nothing where the quotient is whole. -/
theorem roundHalfEven_mul_self (quotient : Nat) {denominator : Nat}
    (positive : 0 < denominator) :
    roundHalfEven (quotient * denominator) denominator = quotient := by
  simp [roundHalfEven, Nat.mul_div_cancel _ positive, positive]

/-- Rounding depends on the quotient alone, not on its two parts. -/
theorem roundHalfEven_mul_right (numerator denominator : Nat) {factor : Nat}
    (positive : 0 < factor) :
    roundHalfEven (numerator * factor) (denominator * factor) =
      roundHalfEven numerator denominator := by
  have below :
      2 * (numerator % denominator * factor) < denominator * factor ↔
        2 * (numerator % denominator) < denominator := by
    rw [← Nat.mul_assoc]
    exact Nat.mul_lt_mul_right positive
  have above :
      denominator * factor < 2 * (numerator % denominator * factor) ↔
        denominator < 2 * (numerator % denominator) := by
    rw [← Nat.mul_assoc]
    exact Nat.mul_lt_mul_right positive
  simp only [roundHalfEven, Nat.mul_div_mul_right _ _ positive, Nat.mul_mod_mul_right,
    below, above]

namespace Binary64

-- A power of naturals is that of the core library, also where algebra is in scope.
attribute [local instance (high)] instPowNat

/-- The distance between neighbouring grid points around a number of units:
one unit up to `2 ^ 53`, and twice as much with every further doubling. -/
def spacing (units : Nat) : Nat :=
  2 ^ (units.log2 - 52)

/-- One is two to this power of units. -/
def oneExponent : Nat :=
  1074

/-- Finite values lie below two to this power of units. -/
def limitExponent : Nat :=
  2098

/-- The number of units in one. -/
@[irreducible] def unitsPerOne : Nat :=
  2 ^ oneExponent

/-- The least power of two above every finite value, in units. -/
@[irreducible] def unitLimit : Nat :=
  2 ^ limitExponent

/-- A number of units is representable when it lies on the grid, that is when
it has at most 53 significant bits, and below the limit of finite values. -/
def Representable (units : Nat) : Prop :=
  spacing units ∣ units ∧ units < unitLimit

/-- The grid point nearest to `numerator / denominator` units, ties to the one
whose last significant bit is zero. The exponent is not bounded here. -/
def roundUnits (numerator denominator : Nat) : Nat :=
  let gap := spacing (numerator / denominator)
  roundHalfEven numerator (denominator * gap) * gap

theorem spacing_pos (units : Nat) : 0 < spacing units :=
  Nat.two_pow_pos _

theorem unitsPerOne_pos : 0 < unitsPerOne := by
  unfold unitsPerOne
  exact Nat.two_pow_pos oneExponent

theorem unitLimit_pos : 0 < unitLimit := by
  unfold unitLimit
  exact Nat.two_pow_pos limitExponent

/-- A coarser grid is part of every finer one. -/
theorem spacing_dvd_spacing {small large : Nat} (ordered : small.log2 ≤ large.log2) :
    spacing small ∣ spacing large :=
  Nat.pow_dvd_pow 2 (by omega)

theorem log2_mono {small large : Nat} (ordered : small ≤ large) :
    small.log2 ≤ large.log2 := by
  by_cases zero : small = 0
  · simp [zero]
  · exact (Nat.le_log2 (by omega)).2
      (Nat.le_trans (Nat.log2_self_le zero) ordered)

/-- Between two neighbouring powers of two lie at most `2 ^ 53` grid points. -/
theorem div_spacing_lt (units : Nat) : units / spacing units < 2 ^ (53 : Nat) := by
  rw [Nat.div_lt_iff_lt_mul (spacing_pos units)]
  calc
    units < 2 ^ (units.log2 + 1) := Nat.lt_log2_self
    _ ≤ 2 ^ (53 + (units.log2 - 52)) := Nat.pow_le_pow_right (by omega) (by omega)
    _ = 2 ^ 53 * spacing units := Nat.pow_add 2 53 _

/-- A power of two lies on the grid around a multiple of it with at most 53 bits. -/
theorem spacing_dvd_two_pow {multiple exponent : Nat} (below : multiple < 2 ^ (53 : Nat)) :
    spacing (multiple * 2 ^ exponent) ∣ 2 ^ exponent := by
  apply Nat.pow_dvd_pow 2
  by_cases zero : multiple * 2 ^ exponent = 0
  · simp [zero]
  · have bounded : multiple * 2 ^ exponent < 2 ^ (53 + exponent) := by
      rw [Nat.pow_add]
      exact Nat.mul_lt_mul_of_pos_right below (Nat.two_pow_pos _)
    have := (Nat.log2_lt zero).2 bounded
    omega

/-- A multiple of a power of two with at most 53 significant bits is on the grid. -/
theorem spacing_dvd_of_le {multiple exponent : Nat} (bounded : multiple ≤ 2 ^ (53 : Nat)) :
    spacing (multiple * 2 ^ exponent) ∣ multiple * 2 ^ exponent := by
  rcases Nat.lt_or_eq_of_le bounded with below | top
  · exact Nat.dvd_trans (spacing_dvd_two_pow below) (Nat.dvd_mul_left _ _)
  · rw [top, ← Nat.pow_add, spacing, Nat.log2_two_pow]
    exact Nat.pow_dvd_pow 2 (by omega)

/-- Rounding counts at most `2 ^ 53` steps of the grid. -/
theorem roundHalfEven_spacing_le (numerator denominator : Nat) :
    roundHalfEven numerator (denominator * spacing (numerator / denominator)) ≤ 2 ^ (53 : Nat) := by
  have rounded := roundHalfEven_le numerator
    (denominator * spacing (numerator / denominator))
  have below := div_spacing_lt (numerator / denominator)
  rw [Nat.div_div_eq_div_mul] at below
  exact Nat.le_trans rounded below

/-- Rounding lands on the grid, also where it carries into the next power of two. -/
theorem spacing_dvd_roundUnits (numerator denominator : Nat) :
    spacing (roundUnits numerator denominator) ∣ roundUnits numerator denominator :=
  spacing_dvd_of_le (roundHalfEven_spacing_le numerator denominator)

/-- A quotient that is a grid point already is its own rounding. -/
theorem roundUnits_mul_self {units denominator : Nat}
    (onGrid : spacing units ∣ units) (positive : 0 < denominator) :
    roundUnits (units * denominator) denominator = units := by
  obtain ⟨multiple, factored⟩ := onGrid
  simp only [roundUnits, Nat.mul_div_cancel _ positive]
  have regrouped :
      units * denominator = multiple * (denominator * spacing units) := by
    rw [Nat.mul_left_comm, Nat.mul_comm multiple, ← factored, Nat.mul_comm]
  rw [regrouped, roundHalfEven_mul_self _ (Nat.mul_pos positive (spacing_pos units)),
    Nat.mul_comm, ← factored]

/-- Equal quotients are rounded to the same grid point. -/
theorem roundUnits_eq_of_cross {numerator denominator otherNumerator otherDenominator : Nat}
    (positive : 0 < denominator) (otherPositive : 0 < otherDenominator)
    (cross : numerator * otherDenominator = otherNumerator * denominator) :
    roundUnits numerator denominator = roundUnits otherNumerator otherDenominator := by
  have scaled (top bottom : Nat) {factor : Nat} (factorPositive : 0 < factor) :
      roundUnits (top * factor) (bottom * factor) = roundUnits top bottom := by
    simp only [roundUnits, Nat.mul_div_mul_right _ _ factorPositive]
    rw [Nat.mul_right_comm, roundHalfEven_mul_right _ _ factorPositive]
  rw [← scaled numerator denominator otherPositive, cross,
    Nat.mul_comm denominator otherDenominator, scaled _ _ positive]

end Binary64

end Reckoner
