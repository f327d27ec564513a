import Reckoner.Decimal.Numeral
import Reckoner.Text.WordCharacter
import Reckoner.Text.Words
import Reckoner.Token.Basic

/-!
Contract: the lexeme that a word spells.

A word is looked at in this order: a parenthesis; a step, whose sign is
written twice before or after a name; a numeral; an identifier; an operator;
and otherwise an unknown lexeme. Numerals, identifiers and operators may be
followed by one line feed, which only a text that was not normalized can hold.

Owns: the classes of words, the lexeme of a word, and the tokens of a text.

Does not own: normalization.
-/

namespace Reckoner

open Text (dropFinalLineFeed isBlank isWordCharacter trim wordsOfNormal)

/-- An identifier begins with an ASCII letter or the underscore. -/
def isIdentifierStart (character : Char) : Bool :=
  character.isAlpha || character == '_'

/-- An identifier goes on with ASCII letters, ASCII digits and underscores. -/
def isIdentifierRest (character : Char) : Bool :=
  character.isAlphanum || character == '_'

def isIdentifier : List Char → Bool
  | [] => false
  | first :: rest => isIdentifierStart first && rest.all isIdentifierRest

/-- A sign is neither a word character nor a blank nor a parenthesis. -/
def isSign (character : Char) : Bool :=
  !isWordCharacter character && !isBlank character && character != '(' && character != ')'

/-- An operator is a run of signs; which of them the calculator knows is
decided when it is applied. -/
def isOperator (characters : List Char) : Bool :=
  !characters.isEmpty && characters.all isSign

namespace Step

/-- A step whose sign comes first, and what follows the sign. -/
def leading? : List Char → Option (Step × List Char)
  | '+' :: '+' :: rest => some (.up, rest)
  | '-' :: '-' :: rest => some (.down, rest)
  | _ => none

/-- A step whose sign comes last, and what precedes the sign. -/
def trailing? (characters : List Char) : Option (Step × List Char) :=
  (leading? characters.reverse).map fun (direction, rest) => (direction, rest.reverse)

end Step

namespace Lexeme

/-- The lexeme of a word that is neither a parenthesis nor a step. -/
def ofPlainWord (word : String) : Lexeme :=
  let body := dropFinalLineFeed word.toList
  match Numeral.ofChars? body with
  | some numeral => .number numeral.toBinary64
  | none =>
      if isIdentifier body then .identifier word
      else if isOperator body then .operator word
      else .unknown word

/-- The lexeme that a word spells. -/
def ofWord (word : String) : Lexeme :=
  if word = "(" then .openParen word
  else if word = ")" then .closeParen word
  else
    match Step.leading? word.toList with
    | some (direction, name) => .step (trim (String.ofList name)) direction .before
    | none =>
        match Step.trailing? word.toList with
        | some (direction, name) => .step (trim (String.ofList name)) direction .after
        | none => ofPlainWord word

end Lexeme

namespace Token

/-- The tokens of words, with columns from one. -/
def ofWords (words : List String) : List Token :=
  (words.zipIdx 1).map fun (word, column) => ⟨Lexeme.ofWord word, column⟩

/-- The tokens of a text that is cut at single spaces. -/
def ofText (text : String) : List Token :=
  ofWords (wordsOfNormal text)

end Token

end Reckoner
