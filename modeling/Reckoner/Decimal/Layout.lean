import Reckoner.Binary64.Basic
import Reckoner.Decimal.Shortest

/-!
Contract: writing decimals and doubles.

A number is written positionally, with its point among its digits, or in
scientific form, as one digit, a fraction and a power of ten. A `Layout` says
where each form is used and how its ends look; the digits are always those of
the shortest decimal that reads back.

Owns: the two forms, the layout record, its two instances in this library, and
the text of NaN and the infinities.

Does not own: the choice of the digits.
-/

namespace Reckoner

namespace Decimal

/-- The digits with the point in its place, filled up with zeros on either
side. A whole number gets the given ending in place of a fraction. -/
def positional (wholeEnding : List Char) (decimal : Decimal) : List Char :=
  let digits := decimal.digits
  if 0 ≤ decimal.exponent then
    digits ++ List.replicate decimal.exponent.toNat '0' ++ wholeEnding
  else
    let places := (-decimal.exponent).toNat
    if places < digits.length then
      digits.take (digits.length - places) ++ '.' :: digits.drop (digits.length - places)
    else
      '0' :: '.' :: List.replicate (places - digits.length) '0' ++ digits

/-- The first digit, the others after a point, and the power of ten that the
first digit counts, signed and filled up with zeros to a width. -/
def scientific (exponentWidth : Nat) (decimal : Decimal) : List Char :=
  let power := decimal.leadingExponent
  let powerDigits := Nat.toDigits 10 power.natAbs
  let fraction := decimal.digits.drop 1
  decimal.digits.take 1 ++ (if fraction.isEmpty then [] else '.' :: fraction) ++
    ['e', if power < 0 then '-' else '+'] ++
    List.replicate (exponentWidth - powerDigits.length) '0' ++ powerDigits

end Decimal

/-- How doubles are written. -/
structure Layout where
  /-- The least leading exponent that is written positionally. -/
  leastPositional : Int
  /-- The least leading exponent above it that is written in scientific form. -/
  leastScientific : Int
  /-- What stands in place of the fraction of a whole number in positional form. -/
  wholeEnding : String
  /-- The least number of digits in the exponent of the scientific form. -/
  exponentWidth : Nat
deriving DecidableEq

namespace Layout

/-- Numbers as the calculator shows them: positional from `0.0001` up to
sixteen digits before the point, always with a point there, and exponents of
at least two digits. -/
def display : Layout where
  leastPositional := -4
  leastScientific := 16
  wholeEnding := ".0"
  exponentWidth := 2

/-- Numbers as the table export writes them: positional from `0.000001` up to
ten digits before the point, whole numbers without a point. -/
def compact : Layout where
  leastPositional := -6
  leastScientific := 10
  wholeEnding := ""
  exponentWidth := 1

/-- A decimal in the form that the layout chooses for its size. -/
def writeDecimal (layout : Layout) (decimal : Decimal) : List Char :=
  let power := decimal.leadingExponent
  if layout.leastPositional ≤ power ∧ power < layout.leastScientific then
    decimal.positional layout.wholeEnding.toList
  else
    decimal.scientific layout.exponentWidth

/-- The text of a double. NaN has no sign; a negative number has a minus, also
where it is zero. -/
def write (layout : Layout) : Binary64 → String
  | .nan => "nan"
  | .infinite negative => if negative then "-inf" else "inf"
  | .finite negative magnitude =>
      String.ofList
        ((if negative then ['-'] else []) ++
          layout.writeDecimal (Decimal.shortest magnitude))

end Layout

/-- The text of a double in the calculator's own layout. -/
def Binary64.display (value : Binary64) : String :=
  Layout.display.write value

end Reckoner
