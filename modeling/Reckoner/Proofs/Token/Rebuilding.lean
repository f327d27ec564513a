import Mathlib.Data.List.Forall2
import Reckoner.Proofs.Token.Classes

/-!
Contract: the tokens of a text tell its words.

A lexeme keeps the characters of its word: all of them as they stand, or, for a
step, its name with the sign beside it. Only a number keeps its value instead.
Main statement: a normalized text has one token for each of its words, in
order, and texts with the same tokens have the same words up to the spelling of
numbers.

Owns: the word that a lexeme is rebuilt to, the rules by which a word spells
its lexeme, and the comparison of texts by their tokens.

Does not own: the value of a numeral.
-/

namespace Reckoner

open Text (dropFinalLineFeed isBlank trim)

variable {characters : List Char}

/-! ### Steps -/

namespace Step

/-- The sign of a step as it is written. -/
def signs (direction : Step) : List Char :=
  [direction.sign, direction.sign]

variable {direction : Step} {rest : List Char}

theorem leading?_eq_some_iff :
    leading? characters = some (direction, rest) ↔ characters = direction.signs ++ rest := by
  constructor
  · intro leads
    unfold leading? at leads
    split at leads
    · cases leads
      rfl
    · cases leads
      rfl
    · cases leads
  · rintro rfl
    cases direction with
    | up => rfl
    | down => rfl

theorem trailing?_eq_some_iff :
    trailing? characters = some (direction, rest) ↔ characters = rest ++ direction.signs := by
  have palindrome : direction.signs.reverse = direction.signs := rfl
  rw [trailing?, Option.map_eq_some_iff]
  constructor
  · rintro ⟨⟨_, reversed⟩, leads, same⟩
    cases same
    rw [leading?_eq_some_iff, List.reverse_eq_iff, List.reverse_append, palindrome] at leads
    exact leads
  · rintro rfl
    refine ⟨(direction, rest.reverse), ?_, ?_⟩
    · rw [leading?_eq_some_iff, List.reverse_append, palindrome]
    · dsimp only
      rw [List.reverse_reverse]

private theorem leading?_eq_none_of_not_prefix
    (noSign : ∀ direction : Step, ¬ direction.signs <+: characters) :
    leading? characters = none := by
  cases leads : leading? characters with
  | none => rfl
  | some found =>
      have split := leading?_eq_some_iff.mp leads
      exact absurd ⟨found.2, split.symm⟩ (noSign found.1)

private theorem trailing?_eq_none_of_not_suffix
    (noSign : ∀ direction : Step, ¬ direction.signs <:+ characters) :
    trailing? characters = none := by
  cases trails : trailing? characters with
  | none => rfl
  | some found =>
      have split := trailing?_eq_some_iff.mp trails
      exact absurd ⟨found.2, split.symm⟩ (noSign found.1)

end Step

/-! ### Rebuilding -/

namespace Lexeme

/-- The characters that a lexeme keeps. -/
def text? : Lexeme → Option String
  | .number _ => none
  | .operator text | .openParen text | .closeParen text | .identifier text | .unknown text =>
      some text
  | .step name _ _ => some name

/-- The word of a lexeme, which only a number does not determine. -/
def word? : Lexeme → Option String
  | .number _ => none
  | .operator text | .openParen text | .closeParen text | .identifier text | .unknown text =>
      some text
  | .step name direction .before => some (String.ofList direction.signs ++ name)
  | .step name direction .after => some (name ++ String.ofList direction.signs)

/-- The rules by which a word spells a lexeme, apart from their order. -/
inductive SpelledBy (word : String) : Lexeme → Prop where
  | openParen (isParen : word = "(") : SpelledBy word (.openParen word)
  | closeParen (isParen : word = ")") : SpelledBy word (.closeParen word)
  | leading {name : String} {direction : Step}
      (split : word = String.ofList direction.signs ++ name) :
      SpelledBy word (.step name direction .before)
  | trailing {name : String} {direction : Step}
      (split : word = name ++ String.ofList direction.signs) :
      SpelledBy word (.step name direction .after)
  | number {numeral : Numeral} (read : Numeral.ofChars? word.toList = some numeral) :
      SpelledBy word (.number numeral.toBinary64)
  | identifier (identifies : isIdentifier word.toList = true) : SpelledBy word (.identifier word)
  | operator (operates : isOperator word.toList = true) : SpelledBy word (.operator word)
  | unknown : SpelledBy word (.unknown word)

/-- What a lexeme tells of the word that it was read from. -/
structure Retells (lexeme : Lexeme) (word : String) : Prop where
  rebuilt : (∀ value, lexeme ≠ .number value) → lexeme.word? = some word
  numeral : ∀ value, lexeme = .number value → Numeral.Shaped word.toList
  identifier : ∀ name, lexeme = .identifier name → isIdentifier name.toList = true
  visible : ∀ text, lexeme.text? = some text →
    ∀ character ∈ text.toList, isBlank character = false

/-- Words that are the same, or that are numerals of one number. -/
def SameWord (left right : String) : Prop :=
  left = right ∨
    Numeral.Shaped left.toList ∧ Numeral.Shaped right.toList ∧ ofWord left = ofWord right

end Lexeme

namespace Text

private theorem trim_eq_self {text : String}
    (visible : ∀ character ∈ text.toList, isBlank character = false) : trim text = text := by
  have trimmed := trimBlanks_append (List.forall_mem_nil _) (List.forall_mem_nil _)
    (fun first isFirst => visible first (List.mem_of_mem_head? isFirst))
    (fun last isLast => visible last (List.mem_of_getLast? isLast))
  rw [List.nil_append, List.append_nil] at trimmed
  rw [trim, trimmed, String.ofList_toList]

private theorem dropFinalLineFeed_eq_self_of_visible
    (visible : ∀ character ∈ characters, isBlank character = false) :
    dropFinalLineFeed characters = characters := by
  rw [dropFinalLineFeed, if_neg]
  intro isLast
  have notBlank := visible '\n' (List.mem_of_getLast? isLast)
  exact absurd notBlank (by decide)

end Text

namespace Lexeme

variable {word : String}

theorem spelledBy_ofPlainWord (visible : ∀ character ∈ word.toList, isBlank character = false) :
    SpelledBy word (ofPlainWord word) := by
  simp only [ofPlainWord, Text.dropFinalLineFeed_eq_self_of_visible visible]
  split
  · rename_i numeral read
    exact .number read
  · split
    · rename_i identifies
      exact .identifier identifies
    · split
      · rename_i operates
        exact .operator operates
      · exact .unknown

/-- A word without blanks spells the lexeme that it is read as. -/
theorem spelledBy_ofWord (visible : ∀ character ∈ word.toList, isBlank character = false) :
    SpelledBy word (ofWord word) := by
  unfold ofWord
  split
  · exact .openParen ‹_›
  · split
    · exact .closeParen ‹_›
    · split
      · rename_i direction name leads
        have split := Step.leading?_eq_some_iff.mp leads
        have nameVisible : ∀ character ∈ (String.ofList name).toList,
            isBlank character = false := by
          rw [String.toList_ofList]
          exact fun character member =>
            visible character (split ▸ List.mem_append_right _ member)
        rw [Text.trim_eq_self nameVisible]
        refine .leading ?_
        rw [← String.toList_inj, split, String.toList_append, String.toList_ofList,
          String.toList_ofList]
      · split
        · rename_i direction name trails
          have split := Step.trailing?_eq_some_iff.mp trails
          have nameVisible : ∀ character ∈ (String.ofList name).toList,
              isBlank character = false := by
            rw [String.toList_ofList]
            exact fun character member =>
              visible character (split ▸ List.mem_append_left _ member)
          rw [Text.trim_eq_self nameVisible]
          refine .trailing ?_
          rw [← String.toList_inj, split, String.toList_append, String.toList_ofList,
            String.toList_ofList]
        · exact spelledBy_ofPlainWord visible

namespace SpelledBy

variable {lexeme : Lexeme}

private theorem word?_eq_some (spelled : SpelledBy word lexeme)
    (other : ∀ value, lexeme ≠ .number value) :
    lexeme.word? = some word := by
  cases spelled with
  | leading split => exact congrArg some split.symm
  | trailing split => exact congrArg some split.symm
  | number read => exact absurd rfl (other _)
  | _ => rfl

theorem shaped {value : Binary64} (spelled : SpelledBy word (.number value)) :
    Numeral.Shaped word.toList := by
  cases spelled with
  | number read => exact Numeral.isSome_ofChars?_iff.mp (Option.isSome_of_eq_some read)

theorem isIdentifier {name : String} (spelled : SpelledBy word (.identifier name)) :
    Reckoner.isIdentifier name.toList = true := by
  cases spelled with
  | identifier identifies => exact identifies

/-- What a lexeme keeps are characters of its word. -/
theorem mem_of_text? {text : String} (spelled : SpelledBy word lexeme)
    (keeps : lexeme.text? = some text) {character : Char} (member : character ∈ text.toList) :
    character ∈ word.toList := by
  cases spelled with
  | leading split =>
      cases keeps
      rw [split, String.toList_append]
      exact List.mem_append_right _ member
  | trailing split =>
      cases keeps
      rw [split, String.toList_append]
      exact List.mem_append_left _ member
  | number read => cases keeps
  | _ =>
      cases keeps
      exact member

end SpelledBy

/-- A word without blanks is retold by its lexeme. -/
theorem retells_ofWord (visible : ∀ character ∈ word.toList, isBlank character = false) :
    (ofWord word).Retells word where
  rebuilt := (spelledBy_ofWord visible).word?_eq_some
  numeral _ isNumber := (isNumber ▸ spelledBy_ofWord visible).shaped
  identifier _ isName := (isName ▸ spelledBy_ofWord visible).isIdentifier
  visible _ keeps character member :=
    visible character ((spelledBy_ofWord visible).mem_of_text? keeps member)

end Lexeme

/-! ### Texts -/

namespace Token

theorem map_lexeme_ofWords (words : List String) :
    (ofWords words).map Token.lexeme = words.map Lexeme.ofWord := by
  have withoutColumns : (words.zipIdx 1).map Prod.fst = words := List.zipIdx_map_fst 1 words
  conv_rhs => rw [← withoutColumns, List.map_map]
  rw [ofWords, List.map_map]
  rfl

private theorem map_column_ofWords (words : List String) :
    (ofWords words).map Token.column =
      (List.range' 1 words.length).map fun column : Nat => (column : Int) := by
  have columns : (words.zipIdx 1).map Prod.snd = List.range' 1 words.length :=
    List.zipIdx_map_snd 1 words
  rw [← columns, ofWords, List.map_map, List.map_map]
  rfl

end Token

private theorem Text.isBlank_of_mem_words {text word : String} (member : word ∈ Text.words text) :
    ∀ character ∈ word.toList, isBlank character = false := by
  rcases Text.isWord_of_mem_words member with ⟨paren, isParen, isWord⟩ | ⟨isRun, _⟩
  · rw [isWord]
    exact List.forall_mem_singleton.mpr (Text.isBlank_of_isParenthesis isParen)
  · exact isRun.2

/-- Words that spell the same lexemes are the same up to numerals. -/
theorem Lexeme.sameWord_of_ofWord {left right : String}
    (leftVisible : ∀ character ∈ left.toList, isBlank character = false)
    (rightVisible : ∀ character ∈ right.toList, isBlank character = false)
    (same : ofWord left = ofWord right) : SameWord left right := by
  have leftRetold := retells_ofWord leftVisible
  have rightRetold := retells_ofWord rightVisible
  by_cases isNumber : ∃ value, ofWord right = .number value
  · obtain ⟨value, isValue⟩ := isNumber
    exact .inr ⟨leftRetold.numeral value (same.trans isValue),
      rightRetold.numeral value isValue, same⟩
  · have rightWord := rightRetold.rebuilt (not_exists.mp isNumber)
    rw [← same] at isNumber rightWord
    have leftWord := leftRetold.rebuilt (not_exists.mp isNumber)
    exact .inl (Option.some.inj (leftWord.symm.trans rightWord))

/-- Lists of words that spell the same lexemes are the same up to numerals. -/
theorem Lexeme.sameWords_of_ofWord {others words : List String}
    (same : others.map ofWord = words.map ofWord)
    (othersVisible : ∀ word ∈ others, ∀ character ∈ word.toList, isBlank character = false)
    (visible : ∀ word ∈ words, ∀ character ∈ word.toList, isBlank character = false) :
    List.Forall₂ SameWord others words := by
  induction others generalizing words with
  | nil =>
      rw [List.map_eq_nil_iff.mp same.symm]
      exact .nil
  | cons other rest inductionHypothesis =>
      obtain ⟨word, more, rfl, sameFirst, sameRest⟩ := List.map_eq_cons_iff.mp same.symm
      rw [List.forall_mem_cons] at othersVisible visible
      exact .cons (sameWord_of_ofWord othersVisible.1 visible.1 sameFirst.symm)
        (inductionHypothesis sameRest.symm othersVisible.2 visible.2)

/-- **Tokens tell the words of a text.** A normalized text has one token for each
of its words, in order. Every token but a number gives its word back; the word
of a number is a numeral, and that of an identifier an identifier. Texts with the
same tokens have the same words, up to numerals of one number. Of the classes of
words at most one admits a word, so that the order in which they are looked at
does not matter. -/
theorem Token.ofText_normalize_retells (text : String) :
    let words := Text.words text
    let tokens := Token.ofText (Text.normalize text)
    tokens.map Token.column =
      (List.range' 1 words.length).map (fun column : Nat => (column : Int)) ∧
    List.Forall₂ (fun token word => token.lexeme.Retells word) tokens words ∧
    (∀ other : String,
      (Token.ofText (Text.normalize other)).map Token.lexeme = tokens.map Token.lexeme →
        List.Forall₂ Lexeme.SameWord (Text.words other) words) ∧
    (∀ (word : String) (first second : WordClass),
      first.admits word = true → second.admits word = true → first = second) ∧
    ∀ word : String, word ≠ "(" → word ≠ ")" →
      (∀ direction : Step,
        ¬ direction.signs <+: word.toList ∧ ¬ direction.signs <:+ word.toList) →
      ∀ order : List WordClass, order.Perm WordClass.all →
        Lexeme.ofWord word = Lexeme.ofPlainWordBy order word := by
  have tokensOf (text : String) :
      Token.ofText (Text.normalize text) = Token.ofWords (Text.words text) := rfl
  intro words tokens
  refine ⟨map_column_ofWords words, ?_, ?_, fun _ _ _ => WordClass.admits_unique, ?_⟩
  · have retold : List.Forall₂ Lexeme.Retells (words.map Lexeme.ofWord) words := by
      rw [List.forall₂_map_left_iff, List.forall₂_same]
      exact fun word isWord => Lexeme.retells_ofWord (Text.isBlank_of_mem_words isWord)
    rwa [← map_lexeme_ofWords, List.forall₂_map_left_iff] at retold
  · intro other same
    rw [tokensOf, map_lexeme_ofWords] at same
    exact Lexeme.sameWords_of_ofWord (same.trans (map_lexeme_ofWords words))
      (fun _ => Text.isBlank_of_mem_words) (fun _ => Text.isBlank_of_mem_words)
  · intro word notOpen notClose noSigns order complete
    have notLeading := Step.leading?_eq_none_of_not_prefix fun direction => (noSigns direction).1
    have notTrailing := Step.trailing?_eq_none_of_not_suffix fun direction => (noSigns direction).2
    rw [Lexeme.ofPlainWordBy_eq complete, Lexeme.ofWord, if_neg notOpen, if_neg notClose,
      notLeading]
    dsimp only
    rw [notTrailing]

end Reckoner
