import Reckoner.Chain
import Reckoner.Token.Spelling

/-!
Contract: parenthesised groups and their values.

The tokens are read once, from left to right. Each open parenthesis begins a
group inside the groups that are open already; each closing one reduces the
innermost group to a number, which takes the column of the group's open
parenthesis and joins the enclosing tokens. So inner groups are reduced before
the groups around them, and an error in a group is found at its closing
parenthesis, before anything that follows is looked at.

Owns: the replacement of groups by their values.

Does not own: the value of a flat expression.
-/

namespace Reckoner

/-- A group that is open: its open parenthesis, and the tokens that stand
before it in the group around it, latest first. -/
structure OpenGroup where
  opening : Token
  before : List Token
deriving DecidableEq

namespace OpenGroup

/-- The tokens of the enclosing group after this one is replaced by its value. -/
def closeWith (group : OpenGroup) (value : Binary64) : List Token :=
  ⟨.number value, group.opening.column⟩ :: group.before

end OpenGroup

/-- Reads the remaining tokens inside the open groups, innermost first. The
tokens of the innermost group that are read already stand latest first. -/
def flattenFrom (groups : List OpenGroup) (current : List Token) :
    List Token → Except EvalError (List Token)
  | [] =>
      match groups with
      | [] => .ok current.reverse
      | group :: _ =>
          .error (.mismatchedParentheses (.unmatchedOpen group.opening.column))
  | token :: rest =>
      match token.lexeme with
      | .openParen _ => flattenFrom (⟨token, current⟩ :: groups) [] rest
      | .closeParen _ =>
          match groups with
          | [] => .error (.mismatchedParentheses (.unmatchedClose token.column))
          | group :: outer => do
              let value ← reduce current.reverse
              flattenFrom outer (group.closeWith value) rest
      | _ => flattenFrom groups (token :: current) rest

/-- Replaces every parenthesised group by its value. -/
def flatten (tokens : List Token) : Except EvalError (List Token) :=
  flattenFrom [] [] tokens

/-- The value of tokens with parentheses and without variables. -/
def valueOfTokens (tokens : List Token) : Except EvalError Binary64 := do
  let flat ← flatten tokens
  reduce flat

/-- The value of a text with parentheses and without variables. -/
def valueOfText (text : String) : Except EvalError Binary64 :=
  valueOfTokens (Token.ofWords (Text.words text))

end Reckoner
