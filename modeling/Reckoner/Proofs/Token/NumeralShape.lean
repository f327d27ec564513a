import Mathlib.Data.List.Basic
import Mathlib.Data.List.TakeWhile
import Reckoner.Decimal.Numeral
import Reckoner.Proofs.Text.Words

/-!
Contract: which words are numerals.

A numeral is an optional sign before digits, which may be of any scripts and of
any number. A point may stand among or behind them, or before them all. Main
statement: these are exactly the characters that have a value as a numeral.

Owns: the shape of numerals, its decision, and the characters that a numeral
consists of, none of which is blank.

Does not own: the value of a numeral.
-/

namespace Reckoner

open Text (digitValue? digitValueFrom digitZeros dropFinalLineFeed isBlank isDecimalDigit
  trimBlanks)

namespace Numeral

/-- All characters are decimal digits. -/
def AreDigits (characters : List Char) : Prop :=
  ∀ character ∈ characters, isDecimalDigit character = true

/-- The shape of a numeral without its sign. -/
inductive Unsigned : List Char → Prop where
  | whole {digits : List Char} (nonempty : digits ≠ []) (areDigits : AreDigits digits) :
      Unsigned digits
  | pointed {whole fraction : List Char} (nonempty : whole ≠ []) (wholeDigits : AreDigits whole)
      (fractionDigits : AreDigits fraction) : Unsigned (whole ++ '.' :: fraction)
  | fraction {digits : List Char} (nonempty : digits ≠ []) (areDigits : AreDigits digits) :
      Unsigned ('.' :: digits)

/-- The shape of a numeral. -/
inductive Shaped : List Char → Prop where
  | unsigned {characters : List Char} (shape : Unsigned characters) : Shaped characters
  | plus {characters : List Char} (shape : Unsigned characters) : Shaped ('+' :: characters)
  | minus {characters : List Char} (shape : Unsigned characters) : Shaped ('-' :: characters)

variable {characters : List Char}

/-! ### Characters -/

namespace Unsigned

private theorem digit_or_point (shape : Unsigned characters) :
    ∀ character ∈ characters, isDecimalDigit character = true ∨ character = '.' := by
  intro character member
  cases shape with
  | whole _ areDigits => exact .inl (areDigits character member)
  | pointed _ wholeDigits fractionDigits =>
      rcases List.mem_append.mp member with inWhole | behind
      · exact .inl (wholeDigits character inWhole)
      · exact (List.mem_cons.mp behind).symm.imp_left (fractionDigits character)
  | fraction _ areDigits => exact (List.mem_cons.mp member).symm.imp_left (areDigits character)

theorem exists_digit (shape : Unsigned characters) :
    ∃ character ∈ characters, isDecimalDigit character = true := by
  cases shape with
  | whole nonempty areDigits =>
      obtain ⟨first, rest, rfl⟩ := List.exists_cons_of_ne_nil nonempty
      exact ⟨first, List.mem_cons_self, areDigits first List.mem_cons_self⟩
  | pointed nonempty wholeDigits _ =>
      obtain ⟨first, rest, rfl⟩ := List.exists_cons_of_ne_nil nonempty
      exact ⟨first, List.mem_cons_self, wholeDigits first List.mem_cons_self⟩
  | fraction nonempty areDigits =>
      obtain ⟨first, rest, rfl⟩ := List.exists_cons_of_ne_nil nonempty
      exact ⟨first, List.mem_cons_of_mem _ List.mem_cons_self,
        areDigits first List.mem_cons_self⟩

end Unsigned

namespace Shaped

theorem mem (shape : Shaped characters) :
    ∀ character ∈ characters,
      isDecimalDigit character = true ∨ character = '.' ∨ character = '+' ∨ character = '-' := by
  have unsigned {characters : List Char} (shape : Unsigned characters) :
      ∀ character ∈ characters,
        isDecimalDigit character = true ∨ character = '.' ∨ character = '+' ∨ character = '-' :=
    fun character member => (shape.digit_or_point character member).imp_right .inl
  cases shape with
  | unsigned shape => exact unsigned shape
  | plus shape => exact List.forall_mem_cons.mpr ⟨.inr (.inr (.inl rfl)), unsigned shape⟩
  | minus shape => exact List.forall_mem_cons.mpr ⟨.inr (.inr (.inr rfl)), unsigned shape⟩

theorem exists_digit (shape : Shaped characters) :
    ∃ character ∈ characters, isDecimalDigit character = true := by
  cases shape with
  | unsigned shape => exact shape.exists_digit
  | plus shape =>
      obtain ⟨character, member, digit⟩ := shape.exists_digit
      exact ⟨character, List.mem_cons_of_mem _ member, digit⟩
  | minus shape =>
      obtain ⟨character, member, digit⟩ := shape.exists_digit
      exact ⟨character, List.mem_cons_of_mem _ member, digit⟩

end Shaped

/-! ### Decision -/

variable {negative : Bool}

private theorem ofUnsigned?_pointed {whole : List Char} (wholeDigits : AreDigits whole)
    (fraction : List Char) :
    ofUnsigned? negative (whole ++ '.' :: fraction) =
      if fraction.all isDecimalDigit && !(whole.isEmpty && fraction.isEmpty) then
        some (ofDigits negative whole fraction)
      else none := by
  have before : (whole ++ '.' :: fraction).takeWhile isDecimalDigit = whole :=
    (List.takeWhile_append_of_pos wholeDigits).trans (List.append_nil whole)
  have behind : (whole ++ '.' :: fraction).dropWhile isDecimalDigit = '.' :: fraction :=
    List.dropWhile_append_of_pos wholeDigits
  rw [ofUnsigned?, before, behind]
  rfl

theorem isSome_ofUnsigned?_iff :
    (ofUnsigned? negative characters).isSome = true ↔ Unsigned characters := by
  constructor
  · intro read
    have split := List.takeWhile_append_dropWhile (p := isDecimalDigit) (l := characters)
    have wholeDigits : AreDigits (characters.takeWhile isDecimalDigit) :=
      fun _ member => List.mem_takeWhile_imp member
    unfold ofUnsigned? at read
    dsimp only at read
    split at read
    · rename_i none
      split at read
      · cases read
      · rename_i nonempty
        rw [none, List.append_nil] at split
        rw [← split]
        exact .whole (fun empty => nonempty (List.isEmpty_iff.mpr empty)) wholeDigits
    · rename_i fraction behind
      split at read
      · rename_i pointed
        obtain ⟨areDigits, some⟩ := (Bool.and_eq_true_iff).mp pointed
        have fractionDigits : AreDigits fraction := List.all_eq_true.mp areDigits
        rw [behind] at split
        rw [← split]
        cases whole : characters.takeWhile isDecimalDigit with
        | nil =>
            rw [whole] at some
            exact .fraction (fun empty => by simp [empty] at some) fractionDigits
        | cons first rest =>
            rw [whole] at wholeDigits
            exact .pointed (List.cons_ne_nil _ _) wholeDigits fractionDigits
      · cases read
    · cases read
  · intro shape
    cases shape with
    | whole nonempty areDigits =>
        rw [ofUnsigned?, List.takeWhile_eq_self_iff.mpr areDigits,
          List.dropWhile_eq_nil_iff.mpr areDigits]
        simp [nonempty]
    | @pointed whole fraction nonempty wholeDigits fractionDigits =>
        rw [ofUnsigned?_pointed wholeDigits]
        have allDigits : fraction.all isDecimalDigit = true := List.all_eq_true.mpr fractionDigits
        simp [allDigits, nonempty]
    | @fraction digits nonempty areDigits =>
        have read := @ofUnsigned?_pointed negative [] (List.forall_mem_nil _) digits
        have allDigits : digits.all isDecimalDigit = true := List.all_eq_true.mpr areDigits
        rw [List.nil_append] at read
        simp [read, allDigits, nonempty]

/-- A sign is no part of an unsigned numeral. -/
theorem Unsigned.ofChars?_eq (shape : Unsigned characters) :
    ofChars? characters = ofUnsigned? false characters := by
  unfold ofChars?
  split
  · exact absurd (shape.digit_or_point '+' List.mem_cons_self) (by decide)
  · exact absurd (shape.digit_or_point '-' List.mem_cons_self) (by decide)
  · rfl

/-- **The shape decides what is a numeral.** -/
theorem isSome_ofChars?_iff : (ofChars? characters).isSome = true ↔ Shaped characters := by
  constructor
  · intro read
    unfold ofChars? at read
    split at read
    · exact .plus (isSome_ofUnsigned?_iff.mp read)
    · exact .minus (isSome_ofUnsigned?_iff.mp read)
    · exact .unsigned (isSome_ofUnsigned?_iff.mp read)
  · intro shape
    cases shape with
    | unsigned shape =>
        rw [shape.ofChars?_eq]
        exact isSome_ofUnsigned?_iff.mpr shape
    | plus shape => exact isSome_ofUnsigned?_iff.mpr shape
    | minus shape => exact isSome_ofUnsigned?_iff.mpr shape

instance : Decidable (Shaped characters) :=
  decidable_of_iff _ isSome_ofChars?_iff

end Numeral

/-! ### Blanks -/

namespace Text

theorem exists_start_of_digitValueFrom {code value : Nat} :
    ∀ {starts : List Nat}, digitValueFrom code starts = some value →
      ∃ start ∈ starts, start ≤ code ∧ code < start + 10
  | [], impossible => nomatch impossible
  | start :: rest, found => by
      unfold digitValueFrom at found
      split at found
      · cases found
      · split at found
        · rename_i above below
          exact ⟨start, List.mem_cons_self, Nat.le_of_not_lt above, below⟩
        · obtain ⟨later, member, bounds⟩ := exists_start_of_digitValueFrom found
          exact ⟨later, List.mem_cons_of_mem _ member, bounds⟩

private theorem exists_range_of_covers {code : Nat} :
    ∀ {ranges : List (Nat × Nat)}, CharTable.covers code ranges = true →
      ∃ range ∈ ranges, range.1 ≤ code ∧ code ≤ range.2
  | [], impossible => nomatch impossible
  | (first, last) :: rest, found => by
      unfold CharTable.covers at found
      split at found
      · cases found
      · split at found
        · rename_i above below
          exact ⟨(first, last), List.mem_cons_self, Nat.le_of_not_lt above, below⟩
        · obtain ⟨later, member, bounds⟩ := exists_range_of_covers found
          exact ⟨later, List.mem_cons_of_mem _ member, bounds⟩

/-- No digit of any script is a blank. -/
theorem isBlank_of_isDecimalDigit {character : Char} (digit : isDecimalDigit character = true) :
    isBlank character = false := by
  have apart : ∀ start ∈ digitZeros, ∀ range ∈ blanks.ranges,
      range.2 < start ∨ start + 10 ≤ range.1 := by
    decide
  obtain ⟨value, isDigit⟩ := Option.isSome_iff_exists.mp digit
  obtain ⟨start, isStart, above, below⟩ := exists_start_of_digitValueFrom isDigit
  rw [Bool.eq_false_iff]
  intro blank
  obtain ⟨range, isRange, atLeast, atMost⟩ := exists_range_of_covers blank
  have separate := apart start isStart range isRange
  omega

/-- Where only a final line feed is blank, trimming takes off just that. -/
theorem trimBlanks_eq_dropFinalLineFeed {characters : List Char}
    (visible : ∀ character ∈ dropFinalLineFeed characters, isBlank character = false) :
    trimBlanks characters = dropFinalLineFeed characters := by
  have whole : ∃ after : List Char, (∀ character ∈ after, isBlank character = true) ∧
      characters = dropFinalLineFeed characters ++ after := by
    unfold dropFinalLineFeed
    split
    · rename_i ends
      refine ⟨['\n'], List.forall_mem_singleton.mpr (by decide), ?_⟩
      exact (List.dropLast_append_getLast? '\n' ends).symm
    · exact ⟨[], List.forall_mem_nil _, (List.append_nil _).symm⟩
  obtain ⟨after, blankAfter, same⟩ := whole
  have blankBefore : ∀ character ∈ ([] : List Char), isBlank character = true :=
    List.forall_mem_nil _
  have trimmed := trimBlanks_append blankBefore blankAfter
    (fun first isFirst => visible first (List.mem_of_mem_head? isFirst))
    (fun last isLast => visible last (List.mem_of_getLast? isLast))
  rw [List.nil_append, ← same] at trimmed
  exact trimmed

end Text

namespace Numeral

variable {characters : List Char}

private theorem Shaped.isBlank_eq_false (shape : Shaped characters) :
    ∀ character ∈ characters, isBlank character = false := by
  intro character member
  rcases shape.mem character member with digit | rfl | rfl | rfl
  · exact Text.isBlank_of_isDecimalDigit digit
  · decide
  · decide
  · decide

/-- Trimming takes no more off a numeral than a final line feed. -/
theorem Shaped.trimBlanks_eq (shape : Shaped (dropFinalLineFeed characters)) :
    trimBlanks characters = dropFinalLineFeed characters :=
  Text.trimBlanks_eq_dropFinalLineFeed shape.isBlank_eq_false

end Numeral

end Reckoner
