import Reckoner.Decimal.Basic

/-!
Contract: the shortest decimal that reads back as a given double.

For one digit, two digits, up to seventeen, the search takes the two points of
that decimal grid around the value, the nearer first, and keeps the first that
rounds to the value. Of two points equally near, the one with the even last
digit comes first. Seventeen digits are enough for every double; the exact
decimal expansion stands behind them, so the result reads back in any case.

Owns: the search, its scale, and the proof that its result reads back.

Does not own: how a decimal is written.
-/

namespace Reckoner.Decimal

-- A power of naturals is that of the core library, also where algebra is in scope.
attribute [local instance (high)] instPowNat

open Binary64 (Magnitude oneExponent unitsPerOne roundUnits)

/-- The number of decimal digits before the point, counted from the first
digit that is not zero; at most zero for a value below one tenth. The least
positive value has its first digit in place 324 after the point. -/
def wholeDigits (magnitude : Magnitude) : Int :=
  (Nat.toDigits 10 (magnitude.units * 10 ^ (324 : Nat) / unitsPerOne)).length - 324

/-- The point of the grid of multiples of `10 ^ exponent` that is nearest to
the value, and then its neighbour on the other side of the value. -/
def nearestPoints (magnitude : Magnitude) (exponent : Int) : List Decimal :=
  let numerator := magnitude.units * 10 ^ (-exponent).toNat
  let denominator := unitsPerOne * 10 ^ exponent.toNat
  let below := numerator / denominator
  let nearest := roundHalfEven numerator denominator
  [⟨nearest, exponent⟩, ⟨if nearest = below then below + 1 else below, exponent⟩]

/-- The nearest decimal with the given number of digits that reads back as the
magnitude. -/
def withDigits? (magnitude : Magnitude) (count : Nat) : Option Decimal :=
  (nearestPoints magnitude (wholeDigits magnitude - count)).find?
    (fun decimal => decide (decimal.RoundsTo magnitude))

/-- The value itself: every double is a whole multiple of `10 ^ -1074`. -/
def expansion (magnitude : Magnitude) : Decimal where
  coefficient := magnitude.units * 5 ^ oneExponent
  exponent := -oneExponent

/-- A decimal with as few digits as possible that reads back as the magnitude,
and among those of that length one nearest to it. -/
def shortest (magnitude : Magnitude) : Decimal :=
  if magnitude.units = 0 then ⟨0, 0⟩
  else
    (((List.range 17).findSome? fun index => withDigits? magnitude (index + 1)).getD
      (expansion magnitude)).trim

/-! ### The result reads back -/

theorem fives_mul_twos (units count : Nat) :
    units * 5 ^ count * 2 ^ count = units * 10 ^ count := by
  rw [Nat.mul_assoc, ← Nat.mul_pow]

private theorem expansion_roundsTo (magnitude : Magnitude) :
    (expansion magnitude).RoundsTo magnitude := by
  have top : (expansion magnitude).coefficient = magnitude.units * 5 ^ oneExponent := rfl
  have up : (expansion magnitude).exponent.toNat = 0 := rfl
  have down : (-(expansion magnitude).exponent).toNat = oneExponent := rfl
  have whole :
      (expansion magnitude).unitNumerator =
        magnitude.units * (expansion magnitude).unitDenominator := by
    simp only [unitNumerator, unitDenominator, top, up, down, Nat.pow_zero, Nat.mul_one]
    unfold unitsPerOne
    exact fives_mul_twos magnitude.units oneExponent
  unfold RoundsTo
  rw [whole]
  exact Binary64.roundUnits_mul_self magnitude.representable.1 (unitDenominator_pos _)

private theorem roundsTo_of_withDigits? {magnitude : Magnitude} {count : Nat} {decimal : Decimal}
    (found : withDigits? magnitude count = some decimal) : decimal.RoundsTo magnitude := by
  have holds := List.find?_some found
  simpa using holds

/-- Every double is read back from its shortest decimal. -/
theorem shortest_roundsTo (magnitude : Magnitude) :
    (shortest magnitude).RoundsTo magnitude := by
  rw [shortest]
  split
  · rename_i isZero
    simp [RoundsTo, isZero, unitNumerator, unitDenominator, roundUnits, roundHalfEven]
  · apply roundsTo_trim
    cases found : (List.range 17).findSome? fun index => withDigits? magnitude (index + 1) with
    | none => exact expansion_roundsTo magnitude
    | some decimal =>
        obtain ⟨index, _, chosen⟩ := List.exists_of_findSome?_eq_some found
        exact roundsTo_of_withDigits? chosen

end Reckoner.Decimal
