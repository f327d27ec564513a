import Reckoner.Binary64.Arithmetic
import Reckoner.Decimal.Layout
import Reckoner.Text.Quoted

/-!
Contract: the tokens of an expression.

A token is a lexeme with the column at which its word stands. Numbers,
operators, parentheses, identifiers and steps (`++x`, `x--`) have lexemes of
their own; a word that is none of these is kept as an unknown lexeme, so that
every text has tokens.

Owns: the types, equality of tokens, and both written forms of a lexeme.

Does not own: which word is which lexeme.
-/

namespace Reckoner

/-- A change of a variable by one. -/
inductive Step where
  | up
  | down
deriving DecidableEq, Repr

/-- Where the sign of a step stands. Before its variable the step yields the
new value, after it the old one. -/
inductive Placement where
  | before
  | after
deriving DecidableEq, Repr

namespace Step

/-- The sign of a step is written twice. -/
def sign : Step → Char
  | .up => '+'
  | .down => '-'

/-- The value of a variable after the step. -/
def apply (step : Step) (value : Binary64) : Binary64 :=
  match step with
  | .up => value.add .one
  | .down => value.add Binary64.one.neg

end Step

/-- What a single word of an expression is. -/
inductive Lexeme where
  | number (value : Binary64)
  | operator (symbol : String)
  | openParen (spelling : String)
  | closeParen (spelling : String)
  | identifier (name : String)
  | step (name : String) (direction : Step) (placement : Placement)
  | unknown (text : String)
deriving DecidableEq

/-- A lexeme at a column. Columns count the words of an expression from one. -/
structure Token where
  lexeme : Lexeme
  column : Int := 1
deriving DecidableEq

namespace Lexeme

/-- The name of the class of the lexeme. -/
def className : Lexeme → String
  | .number _ => "NUMBER"
  | .operator _ => "OPERATOR"
  | .openParen _ => "LPAREN"
  | .closeParen _ => "RPAREN"
  | .identifier _ => "IDENTIFIER"
  | .step _ _ _ => "INCREMENT"
  | .unknown _ => "UNKNOWN"

/-- A step as a triple: its name, its amount, and whether its sign comes first. -/
def stepTriple (name : String) (direction : Step) (placement : Placement) : String :=
  "(" ++ Text.quote name ++ ", " ++
    (match direction with
      | .up => "1"
      | .down => "-1") ++ ", " ++
    (match placement with
      | .before => "True"
      | .after => "False") ++ ")"

/-- The lexeme as error messages show it, with text as it stands. -/
def plainText : Lexeme → String
  | .number value => value.display
  | .operator text | .openParen text | .closeParen text | .identifier text | .unknown text =>
      text
  | .step name direction placement => stepTriple name direction placement

/-- The lexeme as lists of tokens show it, with text between quotation marks. -/
def quotedText : Lexeme → String
  | .number value => value.display
  | .operator text | .openParen text | .closeParen text | .identifier text | .unknown text =>
      Text.quote text
  | .step name direction placement => stepTriple name direction placement

/-- Equality of lexemes, with numbers compared as numbers: the two zeros are
the same and NaN is different from itself. -/
def same : Lexeme → Lexeme → Bool
  | .number left, .number right => left.sameNumber right
  | .number _, _ => false
  | _, .number _ => false
  | left, right => decide (left = right)

end Lexeme

namespace Token

/-- Equality of tokens; their columns do not matter. -/
def same (left right : Token) : Bool :=
  left.lexeme.same right.lexeme

/-- The token with its class, its lexeme and its column. -/
def display (token : Token) : String :=
  "Token(" ++ token.lexeme.className ++ ", " ++ token.lexeme.quotedText ++ ", col=" ++
    toString token.column ++ ")"

end Token

end Reckoner
