import Reckoner.Text.Blank

/-!
Contract: expressions as words separated by single spaces.

A parenthesis is a word of its own wherever it stands. Every other word is a
longest run of characters that are neither blanks nor parentheses.

Owns: `normalize`, which brings a text into the form of its words joined by
single spaces, and the splitting of a text at single spaces.

Does not own: what the words mean.
-/

namespace Reckoner.Text

/-- Puts a space on either side of each parenthesis. -/
def padParentheses (characters : List Char) : List Char :=
  characters.flatMap fun character =>
    if character = '(' ∨ character = ')' then [' ', character, ' '] else [character]

/-- Replaces each run of blanks by one space. The flag says whether a blank
stands directly before the characters. -/
def collapseBlanks (afterBlank : Bool) : List Char → List Char
  | [] => []
  | character :: rest =>
      if isBlank character then
        if afterBlank then collapseBlanks true rest else ' ' :: collapseBlanks true rest
      else character :: collapseBlanks false rest

def normalizeChars (characters : List Char) : List Char :=
  trimBlanks (collapseBlanks false (padParentheses characters))

/-- The words of a text, joined by single spaces. -/
def normalize (text : String) : String :=
  String.ofList (normalizeChars text.toList)

/-- Cuts at each single space; two spaces in a row enclose an empty piece. -/
def splitSpaces : List Char → List (List Char)
  | [] => [[]]
  | character :: rest =>
      if character = ' ' then [] :: splitSpaces rest
      else
        match splitSpaces rest with
        | [] => [[character]]
        | piece :: pieces => (character :: piece) :: pieces

/-- The words of a text that is cut at single spaces. An empty text has none. -/
def wordsOfNormal (text : String) : List String :=
  if text.isEmpty then [] else (splitSpaces text.toList).map String.ofList

/-- The words of a text. -/
def words (text : String) : List String :=
  wordsOfNormal (normalize text)

/-- The words with single spaces between them. -/
def joinWords (words : List String) : String :=
  " ".intercalate words

end Reckoner.Text
