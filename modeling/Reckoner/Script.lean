import Reckoner.Text.Blank

/-!
Contract: scripts, files with one expression on each line.

A line ends with a line feed, with a carriage return, or with both in this
order. Lines are trimmed; those that are then empty or begin with `#` are
left out.

Owns: the cutting of a content into lines, and the expressions of a script.

Does not own: the reading of files.
-/

namespace Reckoner.Script

/-- The lines of a content. A last line without an ending counts, also where
it is empty. -/
def linesOf : List Char → List (List Char)
  | [] => [[]]
  | '\r' :: '\n' :: rest => [] :: linesOf rest
  | '\r' :: rest => [] :: linesOf rest
  | '\n' :: rest => [] :: linesOf rest
  | character :: rest =>
      match linesOf rest with
      | [] => [[character]]
      | line :: lines => (character :: line) :: lines

/-- Whether a trimmed line holds an expression. -/
def isExpression : List Char → Bool
  | [] => false
  | first :: _ => first != '#'

/-- The expressions of a script, in order. -/
def expressions (content : String) : List String :=
  (((linesOf content.toList).map Text.trimBlanks).filter isExpression).map String.ofList

end Reckoner.Script
