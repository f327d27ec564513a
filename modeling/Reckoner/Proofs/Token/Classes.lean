import Reckoner.Proofs.Token.Identifier
import Reckoner.Proofs.Token.NumeralShape

/-!
Contract: numerals, identifiers and operators have no word in common.

A numeral holds a decimal digit of some script, an identifier begins with a
letter or the underscore, and both are word characters, which no operator
holds. Main statement: at most one of the three classes admits a word, so the
order in which they are looked at does not matter.

Owns: the three classes as data, the lexeme of a word when they are looked at
in a given order, and that digits and the starts of identifiers are no signs.

Does not own: parentheses and steps, which are looked at before.
-/

namespace Reckoner

open Text (digitZeros dropFinalLineFeed isDecimalDigit isWordCharacter wordCharacters)

/-! ### Word characters -/

namespace Text

/-- Whether each start begins a run of ten code points that lies in one of the
ranges. Starts and ranges ascend: a range takes the starts in front that lie in
it, and the others are left to the ranges behind. -/
def tensLieIn : List Nat → List (Nat × Nat) → Bool
  | starts, [] => starts.isEmpty
  | starts, (first, last) :: ranges =>
      tensLieIn (starts.dropWhile fun start => decide (first ≤ start ∧ start + 9 ≤ last)) ranges

private theorem exists_range_of_tensLieIn {ranges : List (Nat × Nat)} :
    ∀ {starts : List Nat}, tensLieIn starts ranges = true → ∀ start ∈ starts,
      ∃ range ∈ ranges, range.1 ≤ start ∧ start + 9 ≤ range.2 := by
  induction ranges with
  | nil =>
      intro starts lie start isStart
      rw [List.isEmpty_iff.mp lie] at isStart
      cases isStart
  | cons range ranges inductionHypothesis =>
      intro starts lie start isStart
      rw [← List.takeWhile_append_dropWhile
        (p := fun start => decide (range.1 ≤ start ∧ start + 9 ≤ range.2)) (l := starts),
        List.mem_append] at isStart
      rcases isStart with taken | left
      · exact ⟨range, List.mem_cons_self, by simpa using List.mem_takeWhile_imp taken⟩
      · obtain ⟨later, isLater, inside⟩ := inductionHypothesis lie start left
        exact ⟨later, List.mem_cons_of_mem range isLater, inside⟩

/-- The ends of all ranges, in order. -/
def rangeEnds (ranges : List (Nat × Nat)) : List Nat :=
  ranges.flatMap fun range => [range.1, range.2]

/-- In ascending ranges the search misses none. -/
theorem covers_of_mem {code : Nat} {range : Nat × Nat} {ranges : List (Nat × Nat)}
    (ascending : (rangeEnds ranges).IsChain (· ≤ ·)) (isRange : range ∈ ranges)
    (above : range.1 ≤ code) (below : code ≤ range.2) :
    CharTable.covers code ranges = true := by
  induction ranges with
  | nil => cases isRange
  | cons first rest inductionHypothesis =>
      have ordered : (first.1 :: first.2 :: rangeEnds rest).Pairwise (· ≤ ·) :=
        List.isChain_iff_pairwise.mp ascending
      obtain ⟨fromFirst, behind⟩ := List.pairwise_cons.mp ordered
      obtain ⟨_, restOrdered⟩ := List.pairwise_cons.mp behind
      rw [CharTable.covers]
      rcases List.mem_cons.mp isRange with rfl | inRest
      · rw [if_neg (Nat.not_lt_of_le above), if_pos below]
      · have isEnd : range.1 ∈ rangeEnds rest :=
          List.mem_flatMap.mpr ⟨range, inRest, List.mem_cons_self⟩
        have reached : first.1 ≤ code :=
          Nat.le_trans (fromFirst range.1 (List.mem_cons_of_mem _ isEnd)) above
        rw [if_neg (Nat.not_lt_of_le reached)]
        split
        · rfl
        · exact inductionHypothesis (List.isChain_iff_pairwise.mpr restOrdered) inRest

private theorem isWordCharacter_of_mem {character : Char} {range : Nat × Nat}
    (isRange : range ∈ wordCharacters.ranges) (above : range.1 ≤ character.toNat)
    (below : character.toNat ≤ range.2) : isWordCharacter character = true := by
  have ascending : (rangeEnds wordCharacters.ranges).IsChain (· ≤ ·) := by decide +kernel
  exact covers_of_mem ascending isRange above below

/-- The digits of every script are word characters. -/
theorem isWordCharacter_of_isDecimalDigit {character : Char}
    (digit : isDecimalDigit character = true) : isWordCharacter character = true := by
  have tens : tensLieIn digitZeros wordCharacters.ranges = true := by decide +kernel
  obtain ⟨value, isDigit⟩ := Option.isSome_iff_exists.mp digit
  obtain ⟨start, isStart, above, below⟩ := exists_start_of_digitValueFrom isDigit
  obtain ⟨range, isRange, first, last⟩ := exists_range_of_tensLieIn tens start isStart
  exact isWordCharacter_of_mem isRange (Nat.le_trans first above) (by omega)

/-- So are the characters with which an identifier begins. -/
theorem isWordCharacter_of_isIdentifierStart {character : Char}
    (starts : isIdentifierStart character = true) : isWordCharacter character = true := by
  simp only [isIdentifierStart, Bool.or_eq_true, beq_iff_eq] at starts
  rcases starts with letter | rfl
  · rcases (Bool.or_eq_true _ _).mp letter with upper | lower
    · have inRange : 65 ≤ character.toNat ∧ character.toNat ≤ 90 := of_decide_eq_true upper
      have isRange : (65, 90) ∈ wordCharacters.ranges := by decide
      exact isWordCharacter_of_mem isRange inRange.1 inRange.2
    · have inRange : 97 ≤ character.toNat ∧ character.toNat ≤ 122 :=
        ((Bool.and_eq_true _ _).mp lower).imp of_decide_eq_true of_decide_eq_true
      have isRange : (97, 122) ∈ wordCharacters.ranges := by decide
      exact isWordCharacter_of_mem isRange inRange.1 inRange.2
  · decide

end Text

/-! ### Signs -/

theorem isSign_of_isWordCharacter {character : Char} (inWord : isWordCharacter character = true) :
    isSign character = false := by
  simp [isSign, inWord]

private theorem isOperator_eq_false_of_mem {characters : List Char} {character : Char}
    (member : character ∈ characters) (inWord : isWordCharacter character = true) :
    isOperator characters = false := by
  rw [isOperator, Bool.and_eq_false_iff, List.all_eq_false]
  exact .inr ⟨character, member, by simp [isSign_of_isWordCharacter inWord]⟩

/-! ### Classes -/

/-- The classes of words that are neither parentheses nor steps. -/
inductive WordClass where
  | numeral
  | identifier
  | operator
deriving DecidableEq, Repr

namespace WordClass

/-- The classes in the order in which they are looked at. -/
def all : List WordClass :=
  [numeral, identifier, operator]

/-- Whether a word belongs to the class. Each of them admits a final line feed. -/
def admits (wordClass : WordClass) (word : String) : Bool :=
  let body := dropFinalLineFeed word.toList
  match wordClass with
  | numeral => decide (Numeral.Shaped body)
  | identifier => isIdentifier body
  | operator => isOperator body

/-- The lexeme of a word of the class. -/
def lexeme (wordClass : WordClass) (word : String) : Lexeme :=
  match wordClass with
  | numeral =>
      match Numeral.ofChars? (dropFinalLineFeed word.toList) with
      | some value => .number value.toBinary64
      | none => .unknown word
  | identifier => .identifier word
  | operator => .operator word

end WordClass

/-- The lexeme of a word when the classes are looked at in the given order. -/
def Lexeme.ofPlainWordBy (order : List WordClass) (word : String) : Lexeme :=
  match order.find? (·.admits word) with
  | some wordClass => wordClass.lexeme word
  | none => .unknown word

/-- The order in which the classes are looked at is that of their list. -/
theorem Lexeme.ofPlainWord_eq (word : String) :
    ofPlainWord word = ofPlainWordBy WordClass.all word := by
  have isNumeral : WordClass.numeral.admits word =
      (Numeral.ofChars? (dropFinalLineFeed word.toList)).isSome := by
    rw [Bool.eq_iff_iff, Numeral.isSome_ofChars?_iff]
    exact decide_eq_true_iff
  have isIdentifier' : WordClass.identifier.admits word =
      isIdentifier (dropFinalLineFeed word.toList) := rfl
  have isOperator' : WordClass.operator.admits word =
      isOperator (dropFinalLineFeed word.toList) := rfl
  rw [ofPlainWordBy, WordClass.all, List.find?_cons, List.find?_cons, List.find?_cons,
    List.find?_nil, isNumeral, isIdentifier', isOperator']
  simp only [ofPlainWord]
  cases read : Numeral.ofChars? (dropFinalLineFeed word.toList) with
  | some numeral =>
      dsimp only [Option.isSome_some]
      rw [WordClass.lexeme, read]
  | none =>
      simp only [Option.isSome_none]
      generalize isIdentifier (dropFinalLineFeed word.toList) = identifies
      generalize isOperator (dropFinalLineFeed word.toList) = operates
      cases identifies with
      | true => rfl
      | false =>
          cases operates with
          | true => rfl
          | false => rfl

namespace WordClass

variable {first second : WordClass} {word : String}

/-- What a class admits holds a character that no operator holds, or is one. -/
theorem isOperator_eq_false_of_admits (admitted : first.admits word = true)
    (other : first ≠ operator) : isOperator (dropFinalLineFeed word.toList) = false := by
  cases first with
  | numeral =>
      have shape : Numeral.Shaped (dropFinalLineFeed word.toList) := of_decide_eq_true admitted
      obtain ⟨character, member, digit⟩ := shape.exists_digit
      exact isOperator_eq_false_of_mem member (Text.isWordCharacter_of_isDecimalDigit digit)
  | identifier =>
      have identifies : isIdentifier (dropFinalLineFeed word.toList) = true := admitted
      generalize dropFinalLineFeed word.toList = body at identifies
      cases body with
      | nil => cases identifies
      | cons start rest =>
          have starts : isIdentifierStart start = true := ((Bool.and_eq_true _ _).mp identifies).1
          exact isOperator_eq_false_of_mem List.mem_cons_self
            (Text.isWordCharacter_of_isIdentifierStart starts)
  | operator => exact absurd rfl other

private theorem numeral_of_identifier (admitted : identifier.admits word = true) :
    numeral.admits word = false := by
  have identifies : isIdentifier (dropFinalLineFeed word.toList) = true := admitted
  refine decide_eq_false fun shape => ?_
  rw [← Numeral.isSome_ofChars?_iff, Numeral.ofChars?_eq_none identifies] at shape
  cases shape

/-- **At most one class admits a word.** -/
theorem admits_unique (firstAdmits : first.admits word = true)
    (secondAdmits : second.admits word = true) : first = second := by
  have operatorAdmits (isOperator' : operator.admits word = true) {other : WordClass}
      (admitted : other.admits word = true) : other = operator := by
    by_contra differs
    have notOperator := isOperator_eq_false_of_admits admitted differs
    exact absurd isOperator' (Bool.eq_false_iff.mp notOperator)
  cases first with
  | operator => exact (operatorAdmits firstAdmits secondAdmits).symm
  | numeral =>
      cases second with
      | numeral => rfl
      | identifier =>
          have notNumeral := numeral_of_identifier secondAdmits
          exact absurd firstAdmits (Bool.eq_false_iff.mp notNumeral)
      | operator => exact operatorAdmits secondAdmits firstAdmits
  | identifier =>
      cases second with
      | numeral =>
          have notNumeral := numeral_of_identifier firstAdmits
          exact absurd secondAdmits (Bool.eq_false_iff.mp notNumeral)
      | identifier => rfl
      | operator => exact operatorAdmits secondAdmits firstAdmits

end WordClass

/-- **The order of the classes does not matter.** -/
theorem Lexeme.ofPlainWordBy_eq {order : List WordClass} (complete : order.Perm WordClass.all)
    (word : String) : ofPlainWordBy order word = ofPlainWord word := by
  have sameFound : order.find? (WordClass.admits · word) =
      WordClass.all.find? (WordClass.admits · word) := by
    cases found : WordClass.all.find? (WordClass.admits · word) with
    | none =>
        rw [List.find?_eq_none] at found ⊢
        exact fun wordClass member => found wordClass (complete.mem_iff.mp member)
    | some wordClass =>
        have admitted : wordClass.admits word = true :=
          List.find?_some (p := (WordClass.admits · word)) found
        cases inOrder : order.find? (WordClass.admits · word) with
        | none =>
            have listed := complete.mem_iff.mpr (List.mem_of_find?_eq_some found)
            exact absurd admitted (List.find?_eq_none.mp inOrder wordClass listed)
        | some other =>
            have otherAdmitted : other.admits word = true :=
              List.find?_some (p := (WordClass.admits · word)) inOrder
            rw [WordClass.admits_unique otherAdmitted admitted]
  rw [ofPlainWord_eq, ofPlainWordBy, ofPlainWordBy, sameFound]

end Reckoner
