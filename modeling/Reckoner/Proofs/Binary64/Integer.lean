import Reckoner.Proofs.Decimal.Nearest

/-!
Contract: which integers have a nearest double, and which double that is.

A quotient rounds to a power of two or beyond it as soon as it reaches the middle
of the last step before that power, because the tie there goes to the power, whose
last bit is zero. The limit of finite doubles is such a power. Two doubles that are
equally near to a number have another double between them unless one of their last bits
is set. Main statements: an integer has no double exactly if its absolute value is
`2 ^ 1024 - 2 ^ 970` or more, and any other integer becomes its nearest double, of which
there is one.

Owns: where rounding reaches an even number and a power of two, and the conversion
of integers.

Does not own: what a table does with an integer.
-/

namespace Reckoner

-- A power of naturals is that of the core library, also where algebra is in scope.
attribute [local instance (high)] instPowNat

/-! ### Rounding below a bound -/

/-- The integer nearest to a quotient is below an even number exactly if the quotient
is more than a half below it: the tie goes to the even number. -/
theorem roundHalfEven_lt_iff (numerator : Nat) {denominator bound : Nat}
    (positive : 0 < denominator) (even : bound % 2 = 0) :
    roundHalfEven numerator denominator < bound ↔
      2 * numerator + denominator < 2 * (bound * denominator) := by
  obtain ⟨above, below, tie⟩ := roundHalfEven_within numerator positive
  generalize roundHalfEven numerator denominator = rounded at above below tie ⊢
  constructor
  · intro less
    have next := Nat.mul_le_mul_right denominator (Nat.succ_le_of_lt less)
    rw [Nat.succ_mul] at next
    rcases Nat.lt_or_eq_of_le next with apart | touching
    · omega
    · -- The bound is the next integer, so the rounding is odd and no tie.
      have successor : rounded + 1 = bound := by
        apply Nat.eq_of_mul_eq_mul_right positive
        rw [Nat.add_mul, Nat.one_mul, touching]
      omega
  · intro far
    refine Nat.lt_of_not_le fun reached => ?_
    have atLeast := Nat.mul_le_mul_right denominator reached
    omega

namespace Binary64

variable {numerator denominator exponent : Nat}

/-- Rounding does not rise above a power of two. -/
theorem roundUnits_le_two_pow (small : numerator / denominator < 2 ^ exponent) :
    roundUnits numerator denominator ≤ 2 ^ exponent := by
  have onGrid : spacing (numerator / denominator) ∣ 2 ^ exponent := by
    apply Nat.pow_dvd_pow 2
    by_cases zero : numerator / denominator = 0
    · simp [zero]
    · have := (Nat.log2_lt zero).2 small
      omega
  have below : numerator / denominator / spacing (numerator / denominator) <
      2 ^ exponent / spacing (numerator / denominator) :=
    Nat.div_lt_div_of_lt_of_dvd onGrid small
  calc
    roundUnits numerator denominator ≤
        (numerator / (denominator * spacing (numerator / denominator)) + 1) *
          spacing (numerator / denominator) := Nat.mul_le_mul_right _ (roundHalfEven_le _ _)
    _ = (numerator / denominator / spacing (numerator / denominator) + 1) *
          spacing (numerator / denominator) := by rw [Nat.div_div_eq_div_mul]
    _ ≤ 2 ^ exponent / spacing (numerator / denominator) *
          spacing (numerator / denominator) := Nat.mul_le_mul_right _ below
    _ = 2 ^ exponent := Nat.div_mul_cancel onGrid

/-- Between two neighbouring powers of two the grid has one step. -/
theorem spacing_eq_of_between {units : Nat} (reached : 2 ^ (52 + exponent) ≤ units)
    (below : units < 2 ^ (53 + exponent)) : spacing units = 2 ^ exponent := by
  have nonzero : units ≠ 0 := Nat.ne_of_gt (Nat.lt_of_lt_of_le (Nat.two_pow_pos _) reached)
  have atLeast := (Nat.le_log2 nonzero).2 reached
  have atMost := (Nat.log2_lt nonzero).2 below
  have bits : units.log2 - 52 = exponent := by omega
  rw [spacing, bits]

/-- Rounding stays below a power of two exactly if the quotient lies before the
middle of the last step. -/
theorem roundUnits_lt_two_pow_iff (numerator : Nat) (positive : 0 < denominator)
    (exponent : Nat) :
    roundUnits numerator denominator < 2 ^ (53 + exponent) ↔
      2 * numerator + denominator * 2 ^ exponent < 2 * (2 ^ (53 + exponent) * denominator) := by
  have step := Nat.two_pow_pos exponent
  rcases Nat.lt_or_ge (numerator / denominator) (2 ^ (53 + exponent)) with inside | beyond
  · rcases Nat.lt_or_ge (numerator / denominator) (2 ^ (52 + exponent)) with low | high
    · -- In the lower half both sides hold: rounding cannot leave it.
      have double : 2 ^ (53 + exponent) = 2 * 2 ^ (52 + exponent) := by
        rw [Nat.add_right_comm 52 1 exponent, Nat.pow_succ, Nat.mul_comm]
      have rounded := roundUnits_le_two_pow low
      have small : numerator < 2 ^ (52 + exponent) * denominator :=
        (Nat.div_lt_iff_lt_mul positive).1 low
      have short : 2 ^ exponent * denominator ≤ 2 ^ (52 + exponent) * denominator :=
        Nat.mul_le_mul_right _ (Nat.pow_le_pow_right (by decide) (Nat.le_add_left ..))
      have nonzero := Nat.two_pow_pos (52 + exponent)
      rw [double, Nat.mul_assoc, Nat.mul_comm denominator]
      omega
    · -- In the upper half the power is an even number of steps.
      have gap := spacing_eq_of_between high inside
      have regrouped : 2 ^ (53 + exponent) * denominator =
          2 ^ 53 * (denominator * 2 ^ exponent) := by
        rw [Nat.pow_add, Nat.mul_assoc, Nat.mul_comm denominator]
      rw [roundUnits, gap, Nat.pow_add, Nat.mul_lt_mul_right step,
        roundHalfEven_lt_iff numerator (Nat.mul_pos positive step) (by decide), ← Nat.pow_add,
        regrouped]
  · have rounded := two_pow_le_roundUnits beyond
    have large : 2 ^ (53 + exponent) * denominator ≤ numerator :=
      (Nat.le_div_iff_mul_le positive).1 beyond
    omega

/-! ### Integers -/

theorem two_pow_mul_unitsPerOne (exponent : Nat) :
    2 ^ exponent * unitsPerOne = 2 ^ (exponent + oneExponent) := by
  unfold unitsPerOne
  exact (Nat.pow_add 2 exponent oneExponent).symm

/-- An integer rounds to less than a power of two exactly if it lies before the
middle of the last step. -/
theorem roundUnits_mul_unitsPerOne_lt_iff (absolute top half : Nat)
    (bits : top = 54 + half) :
    roundUnits (absolute * unitsPerOne) 1 < 2 ^ top * unitsPerOne ↔
      absolute + 2 ^ half < 2 ^ top := by
  have regrouped : top + oneExponent = 53 + (half + 1 + oneExponent) := by omega
  rw [two_pow_mul_unitsPerOne, regrouped, roundUnits_lt_two_pow_iff _ Nat.one_pos, ← regrouped,
    ← two_pow_mul_unitsPerOne, ← two_pow_mul_unitsPerOne, Nat.one_mul, Nat.mul_one,
    ← Nat.mul_assoc, ← Nat.mul_assoc, ← Nat.add_mul, Nat.mul_lt_mul_right unitsPerOne_pos,
    Nat.pow_succ]
  omega

/-- So it rounds to a finite double exactly if it lies before the middle of the step
that leads to `2 ^ 1024`. -/
theorem roundUnits_mul_unitsPerOne_lt_unitLimit_iff (absolute : Nat) :
    roundUnits (absolute * unitsPerOne) 1 < unitLimit ↔
      absolute + 2 ^ (970 : Nat) < 2 ^ (1024 : Nat) := by
  have limit : limitExponent - oneExponent = 1024 := by decide
  rw [Decimal.unitLimit_eq, limit]
  exact roundUnits_mul_unitsPerOne_lt_iff absolute 1024 970 (by decide)

private theorem natAbs_add_two_pow_lt_iff (value : ℤ) (top half : Nat) :
    value.natAbs + 2 ^ half < 2 ^ top ↔ |value| < 2 ^ top - 2 ^ half := by
  rw [lt_sub_iff_add_lt, Int.abs_eq_natAbs]
  exact_mod_cast Iff.rfl

private theorem roundUnits_natAbs_lt_unitLimit_iff (value : ℤ) :
    roundUnits (value.natAbs * unitsPerOne) 1 < unitLimit ↔ |value| < 2 ^ 1024 - 2 ^ 970 :=
  (roundUnits_mul_unitsPerOne_lt_unitLimit_iff value.natAbs).trans
    (natAbs_add_two_pow_lt_iff value 1024 970)

variable {value : ℤ} {nearest : Binary64}

/-- An integer becomes the rounding of its units, unless that is infinite. -/
theorem ofInt?_eq_of_rounded
    (rounded : ofUnits (decide (value < 0)) (value.natAbs * unitsPerOne) 1 = nearest) :
    ofInt? value = if nearest.isFinite then some nearest else none := by
  -- The definition is opened as a function, so that no check has to evaluate the powers.
  have opened : ofInt? = ofInt? := rfl
  conv at opened => rhs; delta ofInt?
  rw [opened]
  dsimp only
  rw [rounded]
  cases nearest <;> rfl

/-- An integer that reaches the middle of that step on either side is refused. -/
theorem ofInt?_eq_none (large : 2 ^ 1024 - 2 ^ 970 ≤ |value|) : ofInt? value = none := by
  have unbounded : ¬ roundUnits (value.natAbs * unitsPerOne) 1 < unitLimit :=
    mt (roundUnits_natAbs_lt_unitLimit_iff value).mp (not_lt.mpr large)
  exact ofInt?_eq_of_rounded (dif_neg unbounded)

/-- Every other integer becomes the rounding of its units, with its sign. -/
theorem exists_ofInt?_eq_some (small : |value| < 2 ^ 1024 - 2 ^ 970) :
    ∃ magnitude : Magnitude, roundUnits (value.natAbs * unitsPerOne) 1 = magnitude.units ∧
      ofInt? value = some (finite (decide (value < 0)) magnitude) := by
  have bounded := (roundUnits_natAbs_lt_unitLimit_iff value).mpr small
  exact ⟨⟨_, spacing_dvd_roundUnits (value.natAbs * unitsPerOne) 1, bounded⟩, rfl,
    ofInt?_eq_of_rounded (dif_pos bounded)⟩

/-! ### One nearest double -/

/-- Between two grid points whose last bits are zero lies another grid point. -/
theorem exists_grid_point_between {lower upper : Nat} (lowerOnGrid : spacing lower ∣ lower)
    (upperOnGrid : spacing upper ∣ upper) (lowerEven : LastBitZero lower)
    (upperEven : LastBitZero upper) (less : lower < upper) :
    ∃ middle, spacing middle ∣ middle ∧ lower < middle ∧ middle < upper := by
  have few := div_spacing_lt lower
  have fine : spacing lower ∣ spacing upper :=
    spacing_dvd_spacing (log2_mono (Nat.le_of_lt less))
  obtain ⟨more, counted⟩ := Nat.dvd_trans fine upperOnGrid
  have lowerCounted := Nat.div_mul_cancel lowerOnGrid
  unfold LastBitZero at lowerEven upperEven
  generalize lower / spacing lower = count at few lowerEven lowerCounted
  obtain ⟨exponent, step⟩ : ∃ exponent, spacing lower = 2 ^ exponent := ⟨_, rfl⟩
  rw [step] at fine counted lowerCounted
  have positive := Nat.two_pow_pos exponent
  have next : count < more := by
    refine Nat.lt_of_mul_lt_mul_right (a := 2 ^ exponent) ?_
    rw [lowerCounted, Nat.mul_comm, ← counted]
    exact less
  -- The next grid point is odd, so it is not the upper one.
  have notLast : more ≠ count + 1 := by
    rintro rfl
    have coarse : spacing upper ∣ 2 ^ exponent := by
      rw [counted, Nat.mul_comm]
      exact spacing_dvd_two_pow (by omega)
    have sameStep := Nat.dvd_antisymm coarse fine
    rw [sameStep, counted, Nat.mul_div_cancel_left _ positive] at upperEven
    omega
  refine ⟨(count + 1) * 2 ^ exponent, spacing_dvd_of_le (by omega), ?_, ?_⟩
  · rw [← lowerCounted]
    exact Nat.mul_lt_mul_of_pos_right (Nat.lt_succ_self count) positive
  · rw [counted, Nat.mul_comm (2 ^ exponent)]
    exact Nat.mul_lt_mul_of_pos_right (by omega) positive

theorem representable_signedUnits (value : Binary64) :
    Representable value.signedUnits.natAbs := by
  match value with
  | .nan => exact Magnitude.representable_zero
  | .infinite _ => exact Magnitude.representable_zero
  | .finite false magnitude => exact magnitude.representable
  | .finite true magnitude =>
      rw [signedUnits, Int.natAbs_neg]
      exact magnitude.representable

variable {first second : Binary64}

private theorem exists_between_of_nonneg (firstEven : LastBitZero first.signedUnits.natAbs)
    (secondEven : LastBitZero second.signedUnits.natAbs) (nonneg : 0 ≤ first.signedUnits)
    (less : first.signedUnits < second.signedUnits) :
    ∃ middle : Binary64, middle.isFinite = true ∧ first.signedUnits < middle.signedUnits ∧
      middle.signedUnits < second.signedUnits := by
  obtain ⟨middle, onGrid, above, below⟩ :=
    exists_grid_point_between first.representable_signedUnits.1
      second.representable_signedUnits.1 firstEven secondEven (by omega)
  have bounded := Nat.lt_trans below second.representable_signedUnits.2
  have units : (finite false ⟨middle, onGrid, bounded⟩).signedUnits = middle := rfl
  refine ⟨finite false ⟨middle, onGrid, bounded⟩, rfl, ?_, ?_⟩
  · rw [units]
    omega
  · rw [units]
    omega

/-- Between two doubles whose last bits are zero lies another double. -/
theorem exists_between (firstEven : LastBitZero first.signedUnits.natAbs)
    (secondEven : LastBitZero second.signedUnits.natAbs)
    (less : first.signedUnits < second.signedUnits) :
    ∃ middle : Binary64, middle.isFinite = true ∧ first.signedUnits < middle.signedUnits ∧
      middle.signedUnits < second.signedUnits := by
  rcases Int.lt_or_le first.signedUnits 0 with negative | nonneg
  · rcases Int.lt_or_le 0 second.signedUnits with positive | nonpos
    · exact ⟨zero, rfl, negative, positive⟩
    · -- Both lie on the negative side, where the mirrored doubles have one between them.
      rw [← Int.natAbs_neg, ← signedUnits_neg] at firstEven secondEven
      obtain ⟨middle, isFinite, above, below⟩ :=
        exists_between_of_nonneg secondEven firstEven
          (by rw [signedUnits_neg]; omega) (by rw [signedUnits_neg, signedUnits_neg]; omega)
      rw [signedUnits_neg] at above below
      refine ⟨middle.neg, by rw [isFinite_neg, isFinite], ?_, ?_⟩
      · rw [signedUnits_neg]
        omega
      · rw [signedUnits_neg]
        omega
  · exact exists_between_of_nonneg firstEven secondEven nonneg less

theorem toRat_lt_toRat_iff : first.toRat < second.toRat ↔
    first.signedUnits < second.signedUnits := by
  have positive : (0 : ℚ) < unitsPerOne := Nat.cast_pos.mpr unitsPerOne_pos
  rw [toRat, toRat, div_lt_div_iff_of_pos_right positive, Int.cast_lt]

variable {number : ℚ}

theorem IsRounded.not_lt (firstRounded : first.IsRounded number)
    (secondRounded : second.IsRounded number) (firstFinite : first.isFinite = true)
    (secondFinite : second.isFinite = true) : ¬ first.toRat < second.toRat := by
  intro less
  -- Each is as near as the other, so both have the last bit zero, and the number is
  -- halfway between them. A double in between would be nearer.
  have far := (firstRounded second secondFinite).le
  have near := (secondRounded first firstFinite).le
  have firstEven : LastBitZero first.signedUnits.natAbs := by
    rcases firstRounded second secondFinite with nearer | ⟨_, same | even⟩
    · exact absurd near (not_le.mpr nearer)
    · exact absurd same.symm less.ne
    · exact even
  have secondEven : LastBitZero second.signedUnits.natAbs := by
    rcases secondRounded first firstFinite with nearer | ⟨_, same | even⟩
    · exact absurd far (not_le.mpr nearer)
    · exact absurd same less.ne
    · exact even
  obtain ⟨middle, isFinite, above, below⟩ :=
    exists_between firstEven secondEven (toRat_lt_toRat_iff.mp less)
  rw [← toRat_lt_toRat_iff] at above below
  have halfway : number - first.toRat = second.toRat - number := by
    rcases abs_eq_abs.mp (le_antisymm far near) with same | opposite
    · linarith
    · linarith
  have nearer : |number - middle.toRat| < number - first.toRat :=
    abs_lt.mpr ⟨by linarith, by linarith⟩
  have notNearer := (firstRounded middle isFinite).le
  exact absurd notNearer (not_le.mpr (nearer.trans_le (le_abs_self _)))

/-- A number has one correct rounding. -/
theorem IsRounded.toRat_unique (firstRounded : first.IsRounded number)
    (secondRounded : second.IsRounded number) (firstFinite : first.isFinite = true)
    (secondFinite : second.isFinite = true) : first.toRat = second.toRat :=
  le_antisymm (le_of_not_gt (secondRounded.not_lt firstRounded secondFinite firstFinite))
    (le_of_not_gt (firstRounded.not_lt secondRounded firstFinite secondFinite))

/-! ### The double of an integer -/

/-- The double that stands for an integer: its correct rounding, and no negative zero. -/
structure IsNearest (nearest : Binary64) (value : ℤ) : Prop where
  isFinite : nearest.isFinite = true
  isRounded : nearest.IsRounded value
  unsigned : nearest.isZero = true → nearest = zero

/-- Doubles with the same signed units are the same, or the two zeros. -/
theorem eq_or_isZero_of_signedUnits (firstFinite : first.isFinite = true)
    (secondFinite : second.isFinite = true) (same : first.signedUnits = second.signedUnits) :
    first = second ∨ first.isZero = true ∧ second.isZero = true := by
  match first, second, firstFinite, secondFinite with
  | .finite false left, .finite false right, _, _ =>
      have units : left.units = right.units := Int.ofNat_inj.mp same
      exact .inl (congrArg (finite false) (Magnitude.ext_units units))
  | .finite true left, .finite true right, _, _ =>
      have units : left.units = right.units := Int.ofNat_inj.mp (Int.neg_inj.mp same)
      exact .inl (congrArg (finite true) (Magnitude.ext_units units))
  | .finite false left, .finite true right, _, _ =>
      have units : (left.units : ℤ) = -(right.units : ℤ) := same
      exact .inr ⟨beq_iff_eq.mpr (by omega), beq_iff_eq.mpr (by omega)⟩
  | .finite true left, .finite false right, _, _ =>
      have units : -(left.units : ℤ) = right.units := same
      exact .inr ⟨beq_iff_eq.mpr (by omega), beq_iff_eq.mpr (by omega)⟩

/-- An integer has at most one such double. -/
theorem IsNearest.unique (isFirst : first.IsNearest value) (isSecond : second.IsNearest value) :
    first = second := by
  have sameNumber := isFirst.isRounded.toRat_unique isSecond.isRounded isFirst.isFinite
    isSecond.isFinite
  have nonzero : (unitsPerOne : ℚ) ≠ 0 := Nat.cast_ne_zero.mpr (Nat.ne_of_gt unitsPerOne_pos)
  rw [toRat, toRat, div_left_inj' nonzero, Int.cast_inj] at sameNumber
  rcases eq_or_isZero_of_signedUnits isFirst.isFinite isSecond.isFinite sameNumber with
    same | ⟨firstZero, secondZero⟩
  · exact same
  · rw [isFirst.unsigned firstZero, isSecond.unsigned secondZero]

/-- The number of the decimal that an integer is rounded from. -/
theorem toRat_natAbs (value : ℤ) :
    Numeral.toRat ⟨decide (value < 0), ⟨value.natAbs, 0⟩⟩ = value := by
  have absolute : Decimal.toRat ⟨value.natAbs, 0⟩ = |(value : ℚ)| := by
    rw [Decimal.toRat, zpow_zero, mul_one, Nat.cast_natAbs, Int.cast_abs]
  rw [Numeral.toRat, absolute]
  by_cases negative : value < 0
  · rw [decide_eq_true negative, if_pos rfl, abs_of_neg (Int.cast_lt_zero.mpr negative), neg_neg]
  · rw [decide_eq_false negative, if_neg Bool.false_ne_true,
      abs_of_nonneg (Int.cast_nonneg (not_lt.mp negative))]

/-- **Every integer below the limit has a nearest double, and becomes that.** -/
theorem exists_isNearest (small : |value| < 2 ^ 1024 - 2 ^ 970) :
    ∃ nearest : Binary64, nearest.IsNearest value ∧ ofInt? value = some nearest := by
  obtain ⟨magnitude, rounds, converted⟩ := exists_ofInt?_eq_some small
  have roundsTo : Decimal.RoundsTo ⟨value.natAbs, 0⟩ magnitude := by
    rw [Decimal.RoundsTo, Decimal.unitNumerator, Int.toNat_zero, Nat.pow_zero, Nat.mul_one]
    exact rounds
  have rounded := Numeral.isRounded_of_roundsTo (decide (value < 0)) roundsTo
  rw [toRat_natAbs] at rounded
  refine ⟨_, ⟨rfl, rounded, ?_⟩, converted⟩
  intro isZero
  have noUnits : magnitude.units = 0 := beq_iff_eq.mp isZero
  have isZeroInteger : value = 0 := by
    -- Any other integer is one at least, and rounding does not fall below that.
    refine Int.natAbs_eq_zero.mp (Nat.eq_zero_of_not_pos fun positive => ?_)
    have atLeast : 2 ^ 0 ≤ value.natAbs * unitsPerOne / 1 := by
      rw [Nat.div_one]
      exact Nat.mul_pos positive unitsPerOne_pos
    have rounding := two_pow_le_roundUnits atLeast
    rw [rounds, noUnits] at rounding
    exact absurd rounding (by decide)
  subst isZeroInteger
  exact congrArg (finite false) (Magnitude.ext_units noUnits)

-- The limit is sharp.
example : (ofInt? (2 ^ 1024 - 2 ^ 970 - 1)).isSome = true ∧ ofInt? (2 ^ 1024 - 2 ^ 970) = none := by
  decide +kernel

end Binary64

end Reckoner
