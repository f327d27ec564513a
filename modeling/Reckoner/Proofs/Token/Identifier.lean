import Mathlib.Data.List.TakeWhile
import Reckoner.Proofs.Text.Words
import Reckoner.Token.Spelling

/-!
Contract: an identifier is read as itself.

The classes of words are looked at in an order, and an identifier comes after
parentheses, steps and numerals. It is none of these, because it begins with a
letter or the underscore and holds no sign.

Owns: the characters of identifiers, that an identifier is a word, and its
lexeme.

Does not own: the other classes of words.
-/

namespace Reckoner

open Text (IsWord digitValueFrom digitValue? digitZeros dropFinalLineFeed isDecimalDigit)

variable {characters : List Char}

/-! ### Characters -/

theorem isIdentifierRest_of_start {character : Char}
    (starts : isIdentifierStart character = true) : isIdentifierRest character = true := by
  simp only [isIdentifierStart, isIdentifierRest, Char.isAlphanum, Bool.or_eq_true] at starts ⊢
  exact starts.imp_left .inl

theorem isIdentifierRest_of_mem (identifier : isIdentifier characters = true) :
    ∀ character ∈ characters, isIdentifierRest character = true := by
  cases characters with
  | nil => cases identifier
  | cons first rest =>
      simp only [isIdentifier, Bool.and_eq_true, List.all_eq_true] at identifier
      exact List.forall_mem_cons.mpr ⟨isIdentifierRest_of_start identifier.1, identifier.2⟩

/-- The start of an identifier lies behind the ASCII digits and before those of
every other script. -/
theorem toNat_of_isIdentifierStart {character : Char}
    (starts : isIdentifierStart character = true) :
    65 ≤ character.toNat ∧ character.toNat ≤ 122 := by
  simp only [isIdentifierStart, Bool.or_eq_true, beq_iff_eq] at starts
  rcases starts with letter | rfl
  · rcases (Bool.or_eq_true _ _).mp letter with upper | lower
    · have inRange : 65 ≤ character.toNat ∧ character.toNat ≤ 90 :=
        of_decide_eq_true upper
      omega
    · have inRange : 97 ≤ character.toNat ∧ character.toNat ≤ 122 :=
        ((Bool.and_eq_true _ _).mp lower).imp of_decide_eq_true of_decide_eq_true
      omega
  · decide

private theorem toNat_of_isIdentifierRest {character : Char}
    (continues : isIdentifierRest character = true) :
    48 ≤ character.toNat ∧ character.toNat ≤ 122 := by
  have startOrDigit : isIdentifierStart character = true ∨ character.isDigit = true := by
    simp only [isIdentifierRest, isIdentifierStart, Char.isAlphanum, Bool.or_eq_true]
      at continues ⊢
    exact continues.elim (fun either => either.imp_left .inl) fun line => .inl (.inr line)
  rcases startOrDigit with starts | digit
  · have bounds := toNat_of_isIdentifierStart starts
    omega
  · obtain ⟨above, below⟩ := Char.isDigit_iff_toNat.mp digit
    have zero : '0'.toNat = 48 := rfl
    have nine : '9'.toNat = 57 := rfl
    omega

private theorem isDecimalDigit_of_isIdentifierStart {character : Char}
    (starts : isIdentifierStart character = true) : isDecimalDigit character = false := by
  obtain ⟨above, below⟩ := toNat_of_isIdentifierStart starts
  have noDigit : digitValueFrom character.toNat digitZeros = none := by
    rw [digitZeros, digitValueFrom, if_neg (by omega), if_neg (by omega), digitValueFrom,
      if_pos (by omega)]
  rw [isDecimalDigit, digitValue?, noDigit]
  rfl

/-! ### Words -/

theorem isWord_of_isIdentifier (identifier : isIdentifier characters = true) :
    IsWord characters := by
  apply IsWord.of_plain
  · rintro rfl
    cases identifier
  · intro character member
    have bounds := toNat_of_isIdentifierRest (isIdentifierRest_of_mem identifier character member)
    exact Text.plain_of_toNat (by omega) (by omega)

private theorem Step.leading?_eq_none
    (plain : ∀ character ∈ characters, isIdentifierRest character = true) :
    leading? characters = none := by
  unfold leading?
  split
  · exact absurd (plain '+' (by simp)) (by decide)
  · exact absurd (plain '-' (by simp)) (by decide)
  · rfl

private theorem Step.trailing?_eq_none
    (plain : ∀ character ∈ characters, isIdentifierRest character = true) :
    trailing? characters = none := by
  have reversed : leading? characters.reverse = none :=
    leading?_eq_none fun character member => plain character (List.mem_reverse.mp member)
  rw [trailing?, reversed]
  rfl

private theorem dropFinalLineFeed_eq_self
    (plain : ∀ character ∈ characters, isIdentifierRest character = true) :
    dropFinalLineFeed characters = characters := by
  rw [dropFinalLineFeed, if_neg]
  intro isLast
  exact absurd (plain '\n' (List.mem_of_getLast? isLast)) (by decide)

theorem Numeral.ofChars?_eq_none (identifier : isIdentifier characters = true) :
    ofChars? characters = none := by
  cases characters with
  | nil => cases identifier
  | cons first rest =>
      simp only [isIdentifier, Bool.and_eq_true] at identifier
      have starts := identifier.1
      have noDigit := isDecimalDigit_of_isIdentifierStart starts
      unfold ofChars?
      split
      · rename_i same
        cases same
        exact absurd starts (by decide)
      · rename_i same
        cases same
        exact absurd starts (by decide)
      · rw [ofUnsigned?, List.dropWhile_cons_of_neg (by simp [noDigit])]
        split
        · rename_i same
          cases same
        · rename_i same
          cases same
          exact absurd starts (by decide)
        · rfl

/-- An identifier is the lexeme that it spells. -/
theorem Lexeme.ofWord_of_isIdentifier {name : String}
    (identifier : isIdentifier name.toList = true) : ofWord name = .identifier name := by
  have plain := isIdentifierRest_of_mem identifier
  have notOpen : name ≠ "(" := by
    rintro rfl
    exact absurd identifier (by decide)
  have notClose : name ≠ ")" := by
    rintro rfl
    exact absurd identifier (by decide)
  rw [ofWord, if_neg notOpen, if_neg notClose, Step.leading?_eq_none plain]
  dsimp only
  rw [Step.trailing?_eq_none plain]
  dsimp only
  rw [ofPlainWord, dropFinalLineFeed_eq_self plain, Numeral.ofChars?_eq_none identifier]
  dsimp only
  rw [if_pos identifier]

end Reckoner
