import Reckoner.Binary64.Basic

/-!
Contract: the five operations on doubles.

Sum, difference, product and quotient are the exact result rounded once. The
remainder is exact: it is a double already, because the remainder of two grid
points lies on the finer of their two grids.

Owns: negation, addition, subtraction, multiplication, division and the
remainder with the sign of the dividend, at all operands, NaN, infinities and
both zeros included.

Does not own: the calculator's refusal of zero divisors.
-/

namespace Reckoner.Binary64

namespace Magnitude

theorem representable_mod (left right : Magnitude) :
    Representable (left.units % right.units) := by
  obtain ⟨leftOnGrid, leftBounded⟩ := left.representable
  have rightOnGrid := right.representable.1
  have bounded : left.units % right.units < unitLimit :=
    Nat.lt_of_le_of_lt (Nat.mod_le _ _) leftBounded
  by_cases zeroDivisor : right.units = 0
  · rw [zeroDivisor, Nat.mod_zero]
    exact left.representable
  by_cases small : left.units < right.units
  · rw [Nat.mod_eq_of_lt small]
    exact left.representable
  · -- The grid of the divisor is the finer one, so it holds both operands and the remainder.
    have finer : spacing right.units ∣ left.units :=
      Nat.dvd_trans (spacing_dvd_spacing (log2_mono (by omega))) leftOnGrid
    have held : spacing right.units ∣ left.units % right.units :=
      (Nat.dvd_mod_iff rightOnGrid).2 finer
    have below : left.units % right.units < right.units :=
      Nat.mod_lt _ (by omega)
    exact ⟨Nat.dvd_trans (spacing_dvd_spacing (log2_mono (by omega))) held, bounded⟩

/-- The remainder of whole units. -/
def mod (left right : Magnitude) : Magnitude where
  units := left.units % right.units
  representable := left.representable_mod right

end Magnitude

/-- The number with the opposite sign. -/
def neg : Binary64 → Binary64
  | .nan => .nan
  | .infinite negative => .infinite (!negative)
  | .finite negative magnitude => .finite (!negative) magnitude

/-- The rounded sum. A sum of zero is positive unless both operands carry the
negative sign. -/
def add : Binary64 → Binary64 → Binary64
  | .finite leftNegative left, .finite rightNegative right =>
      let sum := signedUnits (.finite leftNegative left) +
        signedUnits (.finite rightNegative right)
      if sum = 0 then .finite (leftNegative && rightNegative) .zero
      else ofUnits (decide (sum < 0)) sum.natAbs 1
  | .infinite left, .infinite right => if left = right then .infinite left else .nan
  | .infinite left, .finite _ _ => .infinite left
  | .finite _ _, .infinite right => .infinite right
  | .nan, _ => .nan
  | _, .nan => .nan

/-- The rounded difference. -/
def sub (left right : Binary64) : Binary64 :=
  left.add right.neg

/-- The rounded product, with the product of the signs. -/
def mul : Binary64 → Binary64 → Binary64
  | .finite leftNegative left, .finite rightNegative right =>
      ofUnits (leftNegative ^^ rightNegative) (left.units * right.units) unitsPerOne
  | .infinite left, .infinite right => .infinite (left ^^ right)
  | .infinite left, .finite rightNegative right =>
      if right.units = 0 then .nan else .infinite (left ^^ rightNegative)
  | .finite leftNegative left, .infinite right =>
      if left.units = 0 then .nan else .infinite (leftNegative ^^ right)
  | .nan, _ => .nan
  | _, .nan => .nan

/-- The rounded quotient, with the product of the signs. A divisor of zero
gives an infinity, or NaN where the dividend is zero too. -/
def div : Binary64 → Binary64 → Binary64
  | .finite leftNegative left, .finite rightNegative right =>
      if right.units = 0 then
        if left.units = 0 then .nan else .infinite (leftNegative ^^ rightNegative)
      else ofUnits (leftNegative ^^ rightNegative) (left.units * unitsPerOne) right.units
  | .infinite left, .finite rightNegative _ => .infinite (left ^^ rightNegative)
  | .finite leftNegative _, .infinite right => .finite (leftNegative ^^ right) .zero
  | .infinite _, .infinite _ => .nan
  | .nan, _ => .nan
  | _, .nan => .nan

/-- The exact remainder of the division that cuts its quotient off, with the
sign of the dividend. It is NaN for an infinite dividend or a divisor of zero,
and the dividend itself for an infinite divisor. -/
def rem : Binary64 → Binary64 → Binary64
  | .finite leftNegative left, .finite _ right =>
      if right.units = 0 then .nan else .finite leftNegative (left.mod right)
  | .finite leftNegative left, .infinite _ => .finite leftNegative left
  | .infinite _, .infinite _ => .nan
  | .infinite _, .finite _ _ => .nan
  | .nan, _ => .nan
  | _, .nan => .nan

end Reckoner.Binary64
