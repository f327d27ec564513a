import Reckoner.Proofs.Decimal.PlainNumeral
import Reckoner.Token.Spelling

/-!
Contract: a plain numeral with a sign is read as a number.

A minus before a numeral is a part of the word. It is not the sign of a step,
because a digit follows it, and a digit ends the word.

Owns: signed plain numerals, and the lexeme that they spell.

Does not own: which number it is.
-/

namespace Reckoner

open Text (dropFinalLineFeed)

/-- A plain numeral behind a minus, if it is negative. -/
def PlainNumeral.signed (numeral : PlainNumeral) (negative : Bool) : List Char :=
  (if negative then ['-'] else []) ++ numeral.characters

variable {first : Char} {rest : List Char}

/-! ### Signs -/

theorem Step.leading?_of_isDigit (digit : first.isDigit = true) :
    leading? (first :: rest) = none := by
  unfold leading?
  split
  · rename_i same
    cases same
    exact absurd digit (by decide)
  · rename_i same
    cases same
    exact absurd digit (by decide)
  · rfl

private theorem Step.leading?_minus_of_isDigit (digit : first.isDigit = true) :
    leading? ('-' :: first :: rest) = none := by
  unfold leading?
  split
  · rename_i same
    cases same
  · rename_i same
    cases same
    exact absurd digit (by decide)
  · rfl

private theorem Numeral.ofChars?_of_isDigit (digit : first.isDigit = true) :
    ofChars? (first :: rest) = ofUnsigned? false (first :: rest) := by
  unfold ofChars?
  split
  · rename_i same
    cases same
    exact absurd digit (by decide)
  · rename_i same
    cases same
    exact absurd digit (by decide)
  · rfl

namespace PlainNumeral

variable (numeral : PlainNumeral) (negative : Bool)

theorem exists_last_signed :
    ∃ before last, numeral.signed negative = before ++ [last] ∧ last.isDigit = true := by
  obtain ⟨before, last, ends, digit⟩ := numeral.exists_last
  exact ⟨_, last, by rw [signed, ends, ← List.append_assoc], digit⟩

theorem isDigit_or_of_mem_signed {character : Char} (member : character ∈ numeral.signed negative) :
    character.isDigit = true ∨ character = '.' ∨ character = '-' := by
  rcases List.mem_append.mp member with isSign | inNumeral
  · split at isSign
    · exact .inr (.inr (List.mem_singleton.mp isSign))
    · cases isSign
  · exact (isDigit_or_point_of_mem inNumeral).imp_right .inl

private theorem leading?_signed : Step.leading? (numeral.signed negative) = none := by
  obtain ⟨first, rest, begins, digit⟩ := numeral.exists_first
  rw [signed, begins]
  cases negative with
  | false => exact Step.leading?_of_isDigit digit
  | true => exact Step.leading?_minus_of_isDigit digit

private theorem trailing?_signed : Step.trailing? (numeral.signed negative) = none := by
  obtain ⟨before, last, ends, digit⟩ := numeral.exists_last_signed negative
  rw [Step.trailing?, ends, List.reverse_append, List.reverse_singleton, List.singleton_append,
    Step.leading?_of_isDigit digit]
  rfl

private theorem dropFinalLineFeed_signed :
    dropFinalLineFeed (numeral.signed negative) = numeral.signed negative := by
  obtain ⟨before, last, ends, digit⟩ := numeral.exists_last_signed negative
  rw [dropFinalLineFeed, if_neg]
  rw [ends, List.getLast?_append]
  rintro same
  cases same
  exact absurd digit (by decide)

theorem ofChars?_signed :
    Numeral.ofChars? (numeral.signed negative) = some ⟨negative, numeral.value⟩ := by
  cases negative with
  | false =>
      obtain ⟨first, rest, begins, digit⟩ := numeral.exists_first
      have unsigned : numeral.signed false = first :: rest := begins
      rw [unsigned, Numeral.ofChars?_of_isDigit digit, ← begins, ofUnsigned?_characters]
  | true => exact numeral.ofUnsigned?_characters true

/-- **A signed plain numeral spells its number.** -/
theorem ofWord_signed :
    Lexeme.ofWord (String.ofList (numeral.signed negative)) =
      .number (numeral.value.toBinary64 negative) := by
  obtain ⟨before, last, ends, digit⟩ := numeral.exists_last_signed negative
  have differs {word : String} {paren : Char} (spelled : word.toList = [paren])
      (noDigit : paren.isDigit = false) : String.ofList (numeral.signed negative) ≠ word := by
    rintro rfl
    have isLast : last ∈ [paren] := by
      rw [← spelled, String.toList_ofList, ends]
      simp
    rw [← List.mem_singleton.mp isLast, digit] at noDigit
    cases noDigit
  have notOpen : String.ofList (numeral.signed negative) ≠ "(" := differs rfl (by decide)
  have notClose : String.ofList (numeral.signed negative) ≠ ")" := differs rfl (by decide)
  rw [Lexeme.ofWord, if_neg notOpen, if_neg notClose,
    String.toList_ofList, leading?_signed]
  dsimp only
  rw [trailing?_signed]
  dsimp only
  rw [Lexeme.ofPlainWord, String.toList_ofList, dropFinalLineFeed_signed, ofChars?_signed]
  rfl

end PlainNumeral

end Reckoner
