import Mathlib.Data.Nat.Cast.Field
import Reckoner.Proofs.Decimal.Digits
import Reckoner.Proofs.Decimal.Nearest
import Reckoner.Proofs.Report.ValueText

/-!
Contract: the exact text of a finite value in a summary.

A whole value is written with all its digits, any other one with the digits of
its shortest decimal. Both are plain numerals, which have a point exactly where
they have a fraction. Main statement: the text has no digit too many, denotes a
whole value itself and a fraction as its display does, and tells every two values
apart that are different numbers.

Owns: the number that the text denotes, and its shape.

Does not own: the summary around it.
-/

namespace Reckoner

open Binary64 (Magnitude unitsPerOne)

variable (negative : Bool) {magnitude : Magnitude}

/-! ### Whole values -/

namespace Binary64

/-- The value is an integer. -/
def IsWhole (value : Binary64) : Prop :=
  ∃ integer : ℤ, value.toRat = integer

private theorem unitsPerOne_ne_zero : (unitsPerOne : ℚ) ≠ 0 :=
  Nat.cast_ne_zero.mpr (Nat.ne_of_gt unitsPerOne_pos)

private theorem Magnitude.wholePart_eq (whole : magnitude.isWhole = true) :
    (magnitude.wholePart : ℚ) = magnitude.units / unitsPerOne := by
  have noRest : magnitude.units % unitsPerOne = 0 := eq_of_beq whole
  exact Nat.cast_div (Nat.dvd_of_mod_eq_zero noRest) unitsPerOne_ne_zero

/-- A finite value is an integer exactly if it is a multiple of one. -/
theorem isWhole_finite_iff : (finite negative magnitude).IsWhole ↔ magnitude.isWhole = true := by
  constructor
  · rintro ⟨integer, same⟩
    have units : (finite negative magnitude).signedUnits = integer * unitsPerOne := by
      rw [toRat, div_eq_iff unitsPerOne_ne_zero] at same
      exact_mod_cast same
    have divides : (unitsPerOne : ℤ) ∣ (finite negative magnitude).signedUnits :=
      units ▸ Int.dvd_mul_left _ _
    have absolute : (finite negative magnitude).signedUnits.natAbs = magnitude.units := by
      cases negative with
      | false => exact Int.natAbs_natCast _
      | true => exact Int.natAbs_neg _
    rw [Int.natCast_dvd, absolute] at divides
    exact beq_iff_eq.mpr (Nat.mod_eq_zero_of_dvd divides)
  · intro whole
    rw [IsWhole, toRat_finite, ← magnitude.wholePart_eq whole]
    cases negative with
    | false => exact ⟨magnitude.wholePart, (Int.cast_natCast _).symm⟩
    | true => exact ⟨-magnitude.wholePart, by push_cast; rfl⟩

end Binary64

/-! ### The numeral -/

namespace Binary64.Magnitude

private theorem fixedNumeral_of_whole (whole : magnitude.isWhole = true) :
    magnitude.fixedNumeral = .ofNat magnitude.wholePart :=
  if_pos whole

private theorem fixedNumeral_of_fraction (fraction : magnitude.isWhole = false) :
    magnitude.fixedNumeral = .ofDecimal (Decimal.shortest magnitude) :=
  if_neg (by rw [fraction]; exact Bool.false_ne_true)

/-- No digit of the numeral is too many, and it has a fraction where the value has one. -/
theorem fixedNumeral_shape (magnitude : Magnitude) :
    magnitude.fixedNumeral.HasNoSpareZero ∧
      (magnitude.fixedNumeral.fraction = [] ↔ magnitude.isWhole = true) ∧
        (magnitude.isWhole = false → magnitude.fixedNumeral.characters.getLast? ≠ some '0') := by
  cases shape : magnitude.isWhole with
  | true =>
      rw [fixedNumeral_of_whole shape]
      exact ⟨PlainNumeral.hasNoSpareZero_ofNat _, ⟨fun _ => rfl, fun _ => rfl⟩, nofun⟩
  | false =>
      have ⟨someFraction, noSpareZero, lastDigit⟩ := PlainNumeral.ofDecimal_shortest shape
      rw [fixedNumeral_of_fraction shape]
      exact ⟨noSpareZero, ⟨fun none => absurd none someFraction, nofun⟩, fun _ => lastDigit⟩

end Binary64.Magnitude

theorem PlainNumeral.point_mem_signed_iff {numeral : PlainNumeral} {negative : Bool} :
    '.' ∈ numeral.signed negative ↔ numeral.fraction ≠ [] := by
  rw [signed, List.mem_append, or_iff_right, point_mem_characters_iff]
  cases negative <;> decide

theorem PlainNumeral.getLast?_signed {numeral : PlainNumeral} {negative : Bool} :
    (numeral.signed negative).getLast? = numeral.characters.getLast? := by
  obtain ⟨before, last, ends, _⟩ := numeral.exists_last
  have nonempty : numeral.characters ≠ [] := by simp [ends]
  exact List.getLast?_append_of_ne_nil _ nonempty

/-! ### The number of the text -/

/-- The text of a whole value denotes the value itself. -/
theorem denoted?_formatValue_of_whole (whole : magnitude.isWhole = true) :
    Text.denoted? (formatValue (.finite negative magnitude)) =
      some (Binary64.finite negative magnitude).toRat := by
  have exact : Decimal.toRat ⟨magnitude.wholePart, 0⟩ = magnitude.units / unitsPerOne := by
    rw [Decimal.toRat, zpow_zero, mul_one]
    exact magnitude.wholePart_eq whole
  rw [formatValue_finite, magnitude.fixedNumeral_of_whole whole, Text.denoted?_signed,
    PlainNumeral.value_ofNat, Numeral.toRat, exact, Binary64.toRat_finite]
  by_cases zero : magnitude.units = 0
  · simp [zero]
  · simp [zero]

/-- The text of a fraction denotes its shortest decimal. -/
theorem denoted?_formatValue_of_fraction (fraction : magnitude.isWhole = false) :
    Text.denoted? (formatValue (.finite negative magnitude)) =
      some (Numeral.toRat ⟨negative, Decimal.shortest magnitude⟩) := by
  have signed : (negative && magnitude.units != 0) = negative := by
    rw [bne_iff_ne.mpr (magnitude.units_ne_zero_of_fraction fraction), Bool.and_true]
  rw [formatValue_finite, magnitude.fixedNumeral_of_fraction fraction, Text.denoted?_signed, signed,
    PlainNumeral.value_ofDecimal_of_neg (Decimal.exponent_shortest_neg fraction)]

/-- So does its display, in either form. -/
theorem denoted?_display_of_fraction (fraction : magnitude.isWhole = false) :
    Text.denoted? (Binary64.finite negative magnitude).display =
      some (Numeral.toRat ⟨negative, Decimal.shortest magnitude⟩) := by
  have below := Decimal.exponent_shortest_neg fraction
  rcases Layout.display.write_finite negative magnitude (.inr below) with positional | scientific
  · rw [Binary64.display, positional, Text.denoted?_signed,
      PlainNumeral.value_ofDecimal_of_neg below]
  · rw [Binary64.display, scientific, Text.denoted?_scientific]

/-- The text of a finite value is read as the value, a zero without its sign. -/
theorem ofText?_formatValue (magnitude : Magnitude) :
    Binary64.ofText? (formatValue (.finite negative magnitude)) =
      some (Binary64.finite negative magnitude).shown := by
  have read := magnitude.fixedNumeral.ofChars?_signed (negative && magnitude.units != 0)
  have shape := Numeral.isSome_ofChars?_iff.mp (Option.isSome_of_eq_some read)
  rw [formatValue_finite, Binary64.ofText?_of_shaped shape, read, Option.map_some,
    Numeral.toBinary64, Decimal.toBinary64_of_roundsTo _ (roundsTo_fixedNumeral magnitude)]
  rfl

/-- Finite values with one text are the same number. -/
theorem formatValue_eq_iff {value other : Binary64} (finite : value.isFinite = true)
    (otherFinite : other.isFinite = true) :
    formatValue other = formatValue value ↔ other.sameNumber value = true := by
  rw [Binary64.sameNumber_iff_shown_eq otherFinite finite]
  constructor
  · intro same
    have spelled := ofWord_formatValue otherFinite
    rw [same, ofWord_formatValue finite] at spelled
    exact (Lexeme.number.inj spelled).symm
  · intro same
    rw [← formatValue_shown other, same, formatValue_shown]

/-- **A finite value is written without an exponent and with no digit too many.**
Its text is a plain numeral behind a minus or nothing. It has no point exactly if
the value is whole, and then it denotes the value itself. Otherwise it does not
end in a zero, denotes what the display of the value denotes, and is read back as
the value, which is that number correctly rounded. Two finite values have one text
exactly if they are the same number. -/
theorem formatValue_exact (negative : Bool) (magnitude : Magnitude) :
    let value := Binary64.finite negative magnitude
    let text := formatValue value
    (∃ (minus : Bool) (numeral : PlainNumeral),
      text = String.ofList (numeral.signed minus) ∧ numeral.HasNoSpareZero) ∧
    ('.' ∉ text.toList ↔ value.IsWhole) ∧
    (value.IsWhole → Text.denoted? text = some value.toRat) ∧
    (value.isZero = true → text = "0") ∧
    (¬ value.IsWhole → text.toList.getLast? ≠ some '0' ∧
      ∃ number : ℚ, Text.denoted? text = some number ∧
        Text.denoted? value.display = some number ∧
        Binary64.ofText? text = some value ∧ value.IsRounded number) ∧
    ∀ other : Binary64, other.isFinite = true →
      (formatValue other = text ↔ other.sameNumber value = true) := by
  intro value text
  have ⟨noSpareZero, noFraction, lastDigit⟩ := magnitude.fixedNumeral_shape
  have written : text =
      String.ofList (magnitude.fixedNumeral.signed (negative && magnitude.units != 0)) :=
    formatValue_finite negative magnitude
  have whole : value.IsWhole ↔ magnitude.isWhole = true := Binary64.isWhole_finite_iff negative
  refine ⟨⟨_, _, written, noSpareZero⟩, ?_, ?_, ?_, ?_, fun _ => formatValue_eq_iff rfl⟩
  · rw [written, String.toList_ofList, PlainNumeral.point_mem_signed_iff, not_not, noFraction,
      whole]
  · exact fun isWhole => denoted?_formatValue_of_whole negative (whole.mp isWhole)
  · intro isZero
    have zero : magnitude.units = 0 := eq_of_beq isZero
    have shape : magnitude.isWhole = true := by rw [Magnitude.isWhole, zero, Nat.zero_mod]; rfl
    rw [written, magnitude.fixedNumeral_of_whole shape, Magnitude.wholePart, zero, Nat.zero_div]
    cases negative <;> rfl
  · intro notWhole
    have fraction : magnitude.isWhole = false := by
      rwa [whole, Bool.not_eq_true] at notWhole
    have nonzero := magnitude.units_ne_zero_of_fraction fraction
    have shown : value.shown = value := by
      rw [Binary64.shown, bne_iff_ne.mpr nonzero, Bool.and_true]
    refine ⟨?_, _, denoted?_formatValue_of_fraction negative fraction,
      denoted?_display_of_fraction negative fraction, ?_,
      Numeral.isRounded_of_roundsTo negative (Decimal.shortest_roundsTo magnitude)⟩
    · rw [written, String.toList_ofList, PlainNumeral.getLast?_signed]
      exact lastDigit fraction
    · exact (ofText?_formatValue negative magnitude).trans (congrArg some shown)

end Reckoner
