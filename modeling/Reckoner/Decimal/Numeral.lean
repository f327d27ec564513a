import Reckoner.Decimal.Basic
import Reckoner.Text.DecimalDigit

/-!
Contract: numerals.

A numeral is an optional sign, then digits with an optional point after or
among them, or a point followed by digits. The digits may be of any script and
of several.

Owns: the recognition of numerals, their value, and the reader of numbers with
an exponent, which also knows the texts of NaN and the infinities.

Does not own: how numbers are written.
-/

namespace Reckoner

/-- A decimal number with its sign; a zero may have either sign. -/
structure Numeral where
  negative : Bool
  magnitude : Decimal
deriving DecidableEq, Inhabited

namespace Numeral

open Text (isDecimalDigit digitValue?)

/-- The number that a run of digits stands for. -/
def digitsValue (digits : List Char) : Nat :=
  digits.foldl (fun value digit => value * 10 + (digitValue? digit).getD 0) 0

/-- The number whose digits are those before and those after the point. -/
def ofDigits (negative : Bool) (whole fraction : List Char) : Numeral where
  negative := negative
  magnitude :=
    { coefficient := digitsValue (whole ++ fraction)
      exponent := -(fraction.length : Int) }

/-- Reads a numeral without its sign. -/
def ofUnsigned? (negative : Bool) (characters : List Char) : Option Numeral :=
  let whole := characters.takeWhile isDecimalDigit
  match characters.dropWhile isDecimalDigit with
  | [] => if whole.isEmpty then none else some (ofDigits negative whole [])
  | '.' :: fraction =>
      if fraction.all isDecimalDigit && !(whole.isEmpty && fraction.isEmpty) then
        some (ofDigits negative whole fraction)
      else none
  | _ => none

/-- Reads a numeral; `none` where the characters are none. -/
def ofChars? : List Char → Option Numeral
  | '+' :: rest => ofUnsigned? false rest
  | '-' :: rest => ofUnsigned? true rest
  | characters => ofUnsigned? false characters

/-- The double nearest to the numeral. -/
def toBinary64 (numeral : Numeral) : Binary64 :=
  numeral.magnitude.toBinary64 numeral.negative

/-- Reads a whole number in ASCII digits, with an optional sign. -/
def exponentOfChars? : List Char → Option Int
  | '+' :: rest => natural? rest
  | '-' :: rest => (natural? rest).map Neg.neg
  | characters => natural? characters
where
  natural? (characters : List Char) : Option Int :=
    if !characters.isEmpty && characters.all Char.isDigit then
      some (Nat.ofDigitChars 10 characters 0 : Nat)
    else none

/-- The numeral times a power of ten. Beyond 400 places above the number of its
digits the double it rounds to no longer changes, so the exponent is cut there. -/
def scale (numeral : Numeral) (exponent : Int) : Numeral :=
  let decimal := numeral.magnitude
  let limit : Int := 400 + decimal.digits.length + decimal.exponent.natAbs
  { numeral with
    magnitude :=
      { decimal with exponent := decimal.exponent + max (-limit) (min limit exponent) } }

end Numeral

namespace Binary64

/-- Reads a number: a numeral, optionally followed by `e` and an exponent, or
the text of an infinity or of NaN. -/
def ofText? (text : String) : Option Binary64 :=
  match text with
  | "nan" => some .nan
  | "inf" => some (.infinite false)
  | "-inf" => some (.infinite true)
  | _ =>
      let characters := text.toList
      let isMark := fun character => character == 'e' || character == 'E'
      let mantissa := characters.takeWhile (!isMark ·)
      match characters.dropWhile (!isMark ·) with
      | [] => (Numeral.ofChars? mantissa).map Numeral.toBinary64
      | _ :: exponent => do
          let numeral ← Numeral.ofChars? mantissa
          let power ← Numeral.exponentOfChars? exponent
          return (numeral.scale power).toBinary64

end Binary64

end Reckoner
