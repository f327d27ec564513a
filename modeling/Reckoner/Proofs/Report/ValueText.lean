import Reckoner.Proofs.Token.Numeral
import Reckoner.Report.Summary

/-!
Contract: a finite value in a summary is read back.

The text of a finite value is a plain numeral with a sign: all digits of a
whole number, or the shortest decimal in positional form. Both zeros are
written alike, so the sign of a zero is what a reader cannot know. Main
statement: the text spells the value, up to the sign of a zero.

Owns: the plain numeral of a magnitude, and the value that the text spells.

Does not own: summaries.
-/

namespace Reckoner

namespace Binary64

/-- The value as it is shown: a zero without its sign. -/
def shown : Binary64 → Binary64
  | .finite negative magnitude => .finite (negative && magnitude.units != 0) magnitude
  | value => value

/-- Finite values are the same number exactly if they are shown alike. -/
theorem sameNumber_iff_shown_eq {left right : Binary64} (leftFinite : left.isFinite = true)
    (rightFinite : right.isFinite = true) :
    left.sameNumber right = true ↔ left.shown = right.shown := by
  cases left with
  | nan => cases leftFinite
  | infinite negative => cases leftFinite
  | finite negative magnitude =>
      cases right with
      | nan => cases rightFinite
      | infinite negative => cases rightFinite
      | finite other otherMagnitude =>
          have sameMagnitude :
              magnitude = otherMagnitude ↔ magnitude.units = otherMagnitude.units :=
            ⟨congrArg Magnitude.units, Magnitude.ext_units⟩
          simp only [sameNumber, shown, finite.injEq, sameMagnitude]
          by_cases same : magnitude.units = otherMagnitude.units
          · cases zero : otherMagnitude.units == 0 with
            | true => simp [bne, same, zero]
            | false => simp [bne, same, zero]
          · simp [beq_eq_false_iff_ne.mpr same, same]

theorem isFinite_shown (value : Binary64) : value.shown.isFinite = value.isFinite := by
  cases value <;> rfl

theorem shown_shown (value : Binary64) : value.shown.shown = value.shown := by
  cases value with
  | nan => rfl
  | infinite negative => rfl
  | finite negative magnitude => simp [shown]

end Binary64

/-! ### The text -/

/-- The digits that a magnitude has in a summary. -/
def Binary64.Magnitude.fixedNumeral (magnitude : Binary64.Magnitude) : PlainNumeral :=
  if magnitude.isWhole then .ofNat magnitude.wholePart
  else .ofDecimal (Decimal.shortest magnitude)

private theorem characters_fixedNumeral (magnitude : Binary64.Magnitude) :
    magnitude.fixedNumeral.characters = fixedDigits magnitude := by
  unfold Binary64.Magnitude.fixedNumeral fixedDigits
  split
  · exact PlainNumeral.characters_ofNat _
  · exact PlainNumeral.characters_ofDecimal _

/-- All digits of a whole magnitude, or enough digits of another one, round to it. -/
theorem roundsTo_fixedNumeral (magnitude : Binary64.Magnitude) :
    magnitude.fixedNumeral.value.RoundsTo magnitude := by
  unfold Binary64.Magnitude.fixedNumeral
  split
  · rename_i whole
    have noRest : magnitude.units % Binary64.unitsPerOne = 0 := eq_of_beq whole
    have exact : magnitude.wholePart * Binary64.unitsPerOne = magnitude.units * 1 := by
      rw [Nat.mul_one]
      exact Nat.div_mul_cancel (Nat.dvd_of_mod_eq_zero noRest)
    rw [PlainNumeral.value_ofNat, Decimal.RoundsTo]
    have numerator : Decimal.unitNumerator ⟨magnitude.wholePart, 0⟩ = magnitude.units * 1 := by
      rw [← exact]
      simp [Decimal.unitNumerator]
    have denominator : Decimal.unitDenominator ⟨magnitude.wholePart, 0⟩ = 1 := rfl
    rw [numerator, denominator]
    exact Binary64.roundUnits_mul_self magnitude.representable.1 Nat.one_pos
  · exact PlainNumeral.roundsTo_value_ofDecimal.mpr (Decimal.shortest_roundsTo magnitude)

theorem formatValue_finite (negative : Bool) (magnitude : Binary64.Magnitude) :
    formatValue (.finite negative magnitude) =
      String.ofList (magnitude.fixedNumeral.signed (negative && magnitude.units != 0)) := by
  rw [formatValue, PlainNumeral.signed, characters_fixedNumeral]

theorem formatValue_shown (value : Binary64) : formatValue value.shown = formatValue value := by
  cases value with
  | nan => rfl
  | infinite negative => rfl
  | finite negative magnitude =>
      rw [Binary64.shown, formatValue_finite, formatValue_finite, Bool.and_assoc, Bool.and_self]

/-- The text of a finite value is not empty, and it consists of digits, points
and minus signs. -/
theorem formatValue_characters {value : Binary64} (finite : value.isFinite = true) :
    (formatValue value).toList ≠ [] ∧
      ∀ character ∈ (formatValue value).toList,
        45 ≤ character.toNat ∧ character.toNat ≤ 57 := by
  cases value with
  | nan => cases finite
  | infinite negative => cases finite
  | finite negative magnitude =>
      rw [formatValue_finite, String.toList_ofList]
      constructor
      · obtain ⟨before, last, ends, _⟩ := magnitude.fixedNumeral.exists_last_signed _
        rw [ends]
        exact List.append_ne_nil_of_right_ne_nil _ (List.cons_ne_nil _ _)
      · intro character member
        rcases PlainNumeral.isDigit_or_of_mem_signed _ _ member with digit | rfl | rfl
        · exact (Char.isDigit_iff_toNat.mp digit).imp_left fun above =>
            Nat.le_trans (by decide) above
        · decide
        · decide

/-- **The text of a finite value spells the value**, a zero without its sign. -/
theorem ofWord_formatValue {value : Binary64} (finite : value.isFinite = true) :
    Lexeme.ofWord (formatValue value) = .number value.shown := by
  cases value with
  | nan => cases finite
  | infinite negative => cases finite
  | finite negative magnitude =>
      rw [formatValue_finite, PlainNumeral.ofWord_signed,
        Decimal.toBinary64_of_roundsTo _ (roundsTo_fixedNumeral magnitude)]
      rfl

end Reckoner
