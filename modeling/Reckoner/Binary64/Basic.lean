import Reckoner.Binary64.Rounding

/-!
Contract: binary64 numbers as exact data.

A finite value is a sign and a magnitude, and a magnitude is a number of units
on the binary64 grid, so a value of this type is a double and nothing else.
The two zeros differ in their sign. There is one NaN.

Owns: the type, construction by rounding, conversion from integers, equality
of numbers, and the tests for zero and for whole values.

Does not own: arithmetic, or reading and writing as text.
-/

namespace Reckoner

namespace Binary64

/-- The absolute value of a finite double, in units of `2 ^ -1074`. -/
structure Magnitude where
  units : Nat
  representable : Representable units
deriving DecidableEq

namespace Magnitude

theorem ext_units {left right : Magnitude} (same : left.units = right.units) :
    left = right := by
  cases left
  cases right
  cases same
  rfl

theorem representable_zero : Representable 0 :=
  ⟨Nat.dvd_zero _, unitLimit_pos⟩

def zero : Magnitude where
  units := 0
  representable := representable_zero

instance : Inhabited Magnitude := ⟨zero⟩

/-- Whether the value has no fraction. -/
def isWhole (magnitude : Magnitude) : Bool :=
  magnitude.units % unitsPerOne == 0

/-- The value with its fraction cut off. -/
def wholePart (magnitude : Magnitude) : Nat :=
  magnitude.units / unitsPerOne

end Magnitude

end Binary64

open Binary64 in
/-- A binary64 number: NaN, an infinity, or a signed magnitude. -/
inductive Binary64 where
  | nan
  | infinite (negative : Bool)
  | finite (negative : Bool) (magnitude : Magnitude)
deriving DecidableEq

namespace Binary64

def zero : Binary64 :=
  .finite false .zero

instance : Inhabited Binary64 := ⟨zero⟩

/-- The double nearest to `numerator / denominator` units, with the given
sign. A quotient that rounds to the limit or beyond it becomes an infinity. -/
def ofUnits (negative : Bool) (numerator denominator : Nat) : Binary64 :=
  if bounded : roundUnits numerator denominator < unitLimit then
    .finite negative
      ⟨roundUnits numerator denominator,
        spacing_dvd_roundUnits numerator denominator, bounded⟩
  else
    .infinite negative

/-- The double nearest to an integer, or `none` where it would be infinite. -/
def ofInt? (value : Int) : Option Binary64 :=
  match ofUnits (decide (value < 0)) (value.natAbs * unitsPerOne) 1 with
  | .finite negative magnitude => some (.finite negative magnitude)
  | _ => none

/-- The double nearest to a small natural number. -/
def ofNat (value : Nat) : Binary64 :=
  ofUnits false (value * unitsPerOne) 1

def one : Binary64 :=
  ofNat 1

def isFinite : Binary64 → Bool
  | .finite _ _ => true
  | _ => false

/-- Whether the number is one of the two zeros. -/
def isZero : Binary64 → Bool
  | .finite _ magnitude => magnitude.units == 0
  | _ => false

/-- The number of units with its sign; zero for a number that is not finite. -/
def signedUnits : Binary64 → Int
  | .finite true magnitude => -(magnitude.units : Int)
  | .finite false magnitude => magnitude.units
  | _ => 0

/-- Equality of numbers: the two zeros are equal, and NaN is equal to nothing. -/
def sameNumber : Binary64 → Binary64 → Bool
  | .nan, _ => false
  | .infinite left, .infinite right => left == right
  | .finite leftNegative left, .finite rightNegative right =>
      left.units == right.units && (left.units == 0 || leftNegative == rightNegative)
  | _, _ => false

end Binary64

end Reckoner
