import Reckoner.Text.CharTable

/-!
Contract: the blank characters.

Blanks separate words and are trimmed at both ends of a line. They are the
white space of Unicode and the four information separators, `U+001C` to
`U+001F`. The zero-width space and the byte order mark are not among them.

Owns: the class of blanks, the trimming of text, and the removal of one final
line feed.

Does not own: the splitting of text into words.
-/

namespace Reckoner.Text

def blanks : CharTable where
  ranges := [
    (0x0009, 0x000D), (0x001C, 0x0020), (0x0085, 0x0085), (0x00A0, 0x00A0), (0x1680, 0x1680),
    (0x2000, 0x200A), (0x2028, 0x2029), (0x202F, 0x202F), (0x205F, 0x205F), (0x3000, 0x3000)]

def isBlank (character : Char) : Bool :=
  blanks.contains character

/-- The characters without the blanks at either end. -/
def trimBlanks (characters : List Char) : List Char :=
  ((characters.dropWhile isBlank).reverse.dropWhile isBlank).reverse

/-- The text without the blanks at either end. -/
def trim (text : String) : String :=
  String.ofList (trimBlanks text.toList)

/-- The characters without one line feed at their end. -/
def dropFinalLineFeed (characters : List Char) : List Char :=
  if characters.getLast? = some '\n' then characters.dropLast else characters

end Reckoner.Text
