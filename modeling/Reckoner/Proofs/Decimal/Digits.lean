import Reckoner.Proofs.Decimal.PlainNumeral
import Reckoner.Proofs.Decimal.Range

/-!
Contract: no digit too many.

A natural number is written without a zero in front, and one that is no multiple
of ten without a zero behind. The shortest decimal of a double is no multiple of
ten, and that of a double with a fraction has digits behind the point, because an
integer rounds to an integer. Main statement: the positional form of such a
decimal has a point, no zero in front of its whole part except a single one, and
no zero at its end.

Owns: the first and the last digit of a number, of a trimmed decimal and of a
plain numeral, and the exponent of the shortest decimal of a fraction.

Does not own: the value of the digits.
-/

namespace Reckoner

-- A power of naturals is that of the core library, also where algebra is in scope.
attribute [local instance (high)] instPowNat

/-! ### Natural numbers -/

theorem head?_toDigits_ne_zero {value : Nat} (positive : value ≠ 0) :
    (Nat.toDigits 10 value).head? ≠ some '0' := by
  induction value using Nat.strongRecOn with
  | _ value inductionHypothesis =>
      by_cases single : value < 10
      · rw [Nat.toDigits_of_lt_base single, List.head?_cons]
        exact fun isZero => positive (Nat.digitChar_eq_zero.mp (Option.some.inj isZero))
      · have shorter : value / 10 < value := by omega
        rw [Nat.toDigits_of_base_le (by decide) (by omega),
          List.head?_append_of_ne_nil _ Nat.toDigits_ne_nil]
        exact inductionHypothesis (value / 10) shorter (by omega)

private theorem getLast?_toDigits_ne_zero {value : Nat} (noMultiple : value % 10 ≠ 0) :
    (Nat.toDigits 10 value).getLast? ≠ some '0' := by
  intro ends
  obtain ⟨before, digits⟩ := List.getLast?_eq_some_iff.mp ends
  have factored : value = 10 * Nat.ofDigitChars 10 before 0 := by
    calc
      value = Nat.ofDigitChars 10 (before ++ ['0']) 0 := by
        rw [← digits, Nat.ofDigitChars_ten_toDigits]
      _ = 10 * Nat.ofDigitChars 10 before 0 := by
        rw [Nat.ofDigitChars_append]
        rfl
  omega

/-! ### Shortest decimals -/

namespace Decimal

variable {decimal : Decimal} {magnitude : Binary64.Magnitude}

theorem coefficient_trim (decimal : Decimal) :
    decimal.trim.coefficient = 0 ∨ decimal.trim.coefficient % 10 ≠ 0 := by
  fun_induction trim decimal with
  | case1 decimal divisible inductionHypothesis => exact inductionHypothesis
  | case2 decimal notDivisible => omega

theorem shortest_mod_ten (nonzero : magnitude.units ≠ 0) :
    (shortest magnitude).coefficient % 10 ≠ 0 := by
  have positive := coefficient_ne_zero_of_roundsTo (shortest_roundsTo magnitude) nonzero
  rw [shortest, if_neg nonzero] at positive ⊢
  exact (coefficient_trim _).resolve_left positive

end Decimal

namespace Binary64

variable {units : Nat}

private theorem spacing_dvd_unitsPerOne (fine : units.log2 - 52 ≤ oneExponent) :
    spacing units ∣ unitsPerOne := by
  unfold spacing unitsPerOne
  exact Nat.pow_dvd_pow 2 fine

private theorem unitsPerOne_dvd_spacing (coarse : oneExponent ≤ units.log2 - 52) :
    unitsPerOne ∣ spacing units := by
  unfold spacing unitsPerOne
  exact Nat.pow_dvd_pow 2 coarse

/-- An integer rounds to an integer: either it is on the grid, or the grid there
consists of integers. -/
theorem unitsPerOne_dvd_roundUnits (whole : Nat) :
    unitsPerOne ∣ roundUnits (whole * unitsPerOne) 1 := by
  rcases Nat.le_total ((whole * unitsPerOne).log2 - 52) oneExponent with fine | coarse
  · have onGrid : spacing (whole * unitsPerOne) ∣ whole * unitsPerOne :=
      Nat.dvd_mul_left_of_dvd (spacing_dvd_unitsPerOne fine) whole
    have kept := roundUnits_mul_self onGrid Nat.one_pos
    rw [Nat.mul_one] at kept
    rw [kept]
    exact Nat.dvd_mul_left _ _
  · rw [roundUnits, Nat.div_one]
    exact Nat.dvd_mul_left_of_dvd (unitsPerOne_dvd_spacing coarse) _

end Binary64

theorem Binary64.Magnitude.units_ne_zero_of_fraction {magnitude : Binary64.Magnitude}
    (fraction : magnitude.isWhole = false) : magnitude.units ≠ 0 := by
  intro zero
  rw [isWhole, zero, Nat.zero_mod] at fraction
  cases fraction

/-- The shortest decimal of a value with a fraction has digits behind the point. -/
theorem Decimal.exponent_shortest_neg {magnitude : Binary64.Magnitude}
    (fraction : magnitude.isWhole = false) : (shortest magnitude).exponent < 0 := by
  refine Int.lt_of_not_ge fun nonneg => ?_
  have none : (-(shortest magnitude).exponent).toNat = 0 := by omega
  have rounds := shortest_roundsTo magnitude
  rw [RoundsTo, unitNumerator, unitDenominator, none, Nat.pow_zero] at rounds
  have whole := Binary64.unitsPerOne_dvd_roundUnits
    ((shortest magnitude).coefficient * 10 ^ (shortest magnitude).exponent.toNat)
  rw [rounds] at whole
  rw [Binary64.Magnitude.isWhole, Nat.mod_eq_zero_of_dvd whole] at fraction
  cases fraction

/-! ### Plain numerals -/

namespace PlainNumeral

variable {numeral : PlainNumeral} {decimal : Decimal}

/-- The whole part begins with a zero only if it is a single zero. -/
def HasNoSpareZero (numeral : PlainNumeral) : Prop :=
  numeral.whole.head? = some '0' → numeral.whole = ['0']

theorem point_mem_characters_iff : '.' ∈ numeral.characters ↔ numeral.fraction ≠ [] := by
  unfold characters
  split
  · rename_i none
    have noPoint : '.' ∉ numeral.whole :=
      fun inWhole => absurd (numeral.whole_digits _ inWhole) (by decide)
    simp [none, noPoint]
  · rename_i some
    simp [some]

theorem hasNoSpareZero_ofNat (value : Nat) : (ofNat value).HasNoSpareZero := by
  intro begins
  by_cases zero : value = 0
  · rw [zero]
    rfl
  · exact absurd begins (head?_toDigits_ne_zero zero)

private theorem fraction_ofDecimal_ne_nil (negative : decimal.exponent < 0) :
    (ofDecimal decimal).fraction ≠ [] := by
  rw [ofDecimal, if_neg (by omega)]
  split
  · rename_i behind
    dsimp only
    rw [Ne, List.drop_eq_nil_iff]
    omega
  · exact List.append_ne_nil_of_right_ne_nil _ Nat.toDigits_ne_nil

theorem hasNoSpareZero_ofDecimal (negative : decimal.exponent < 0)
    (positive : decimal.coefficient ≠ 0) : (ofDecimal decimal).HasNoSpareZero := by
  rw [ofDecimal, if_neg (by omega)]
  split
  · rename_i behind
    intro begins
    dsimp only at begins
    rw [List.head?_take, if_neg (by omega)] at begins
    exact absurd begins (head?_toDigits_ne_zero positive)
  · exact fun _ => rfl

/-- The digits of a decimal with a fraction end where its numeral ends. -/
theorem getLast?_ofDecimal (negative : decimal.exponent < 0) :
    (ofDecimal decimal).characters.getLast? = decimal.digits.getLast? := by
  have someDigit : decimal.digits ≠ [] := Nat.toDigits_ne_nil
  rw [characters, if_neg (fraction_ofDecimal_ne_nil negative),
    List.getLast?_append_of_ne_nil _ (List.cons_ne_nil _ _), ← List.singleton_append,
    List.getLast?_append_of_ne_nil _ (fraction_ofDecimal_ne_nil negative), ofDecimal,
    if_neg (by omega)]
  split
  · rename_i behind
    dsimp only
    rw [List.getLast?_drop, if_neg (by omega)]
  · exact List.getLast?_append_of_ne_nil _ someDigit

end PlainNumeral

/-- **The numeral of a fraction has no digit too many.** -/
theorem PlainNumeral.ofDecimal_shortest {magnitude : Binary64.Magnitude}
    (fraction : magnitude.isWhole = false) :
    let numeral := PlainNumeral.ofDecimal (Decimal.shortest magnitude)
    numeral.fraction ≠ [] ∧ numeral.HasNoSpareZero ∧ numeral.characters.getLast? ≠ some '0' := by
  have nonzero := magnitude.units_ne_zero_of_fraction fraction
  have negative := Decimal.exponent_shortest_neg fraction
  have positive :=
    Decimal.coefficient_ne_zero_of_roundsTo (Decimal.shortest_roundsTo magnitude) nonzero
  refine ⟨fraction_ofDecimal_ne_nil negative, hasNoSpareZero_ofDecimal negative positive, ?_⟩
  rw [getLast?_ofDecimal negative]
  exact getLast?_toDigits_ne_zero (Decimal.shortest_mod_ten nonzero)

end Reckoner
