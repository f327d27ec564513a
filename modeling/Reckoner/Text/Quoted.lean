import Reckoner.Text.Printable

/-!
Contract: text shown between quotation marks, on one line and in printable
characters only.

The mark is the apostrophe, or the double quote where the text holds an
apostrophe and no double quote. The mark in use and the backslash are escaped
by a backslash; line feed, carriage return and tab have letters of their own;
any other character that is not printable is given by its code point in two,
four or eight hexadecimal digits.

Owns: the choice of the mark, the escapes, and the quoted text.

Does not own: the class of printable characters.
-/

namespace Reckoner.Text

/-- The lower-case hexadecimal digits of a number, filled up with zeros to a width. -/
def hexadecimal (width code : Nat) : List Char :=
  let digits := Nat.toDigits 16 code
  List.replicate (width - digits.length) '0' ++ digits

/-- The quotation mark for a text. -/
def quotationMark (characters : List Char) : Char :=
  if characters.contains '\x27' && !characters.contains '\x22' then '\x22' else '\x27'

/-- A character as it stands between two quotation marks. -/
def escapeCharacter (mark character : Char) : List Char :=
  if character = mark ∨ character = '\\' then ['\\', character]
  else if character = '\n' then ['\\', 'n']
  else if character = '\r' then ['\\', 'r']
  else if character = '\t' then ['\\', 't']
  else if isPrintable character then [character]
  else if character.toNat < 0x100 then '\\' :: 'x' :: hexadecimal 2 character.toNat
  else if character.toNat < 0x10000 then '\\' :: 'u' :: hexadecimal 4 character.toNat
  else '\\' :: 'U' :: hexadecimal 8 character.toNat

/-- The text between quotation marks. -/
def quote (text : String) : String :=
  let characters := text.toList
  let mark := quotationMark characters
  String.ofList (mark :: characters.flatMap (escapeCharacter mark) ++ [mark])

end Reckoner.Text
