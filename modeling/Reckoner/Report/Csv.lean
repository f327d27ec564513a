import Reckoner.Table.Basic

/-!
Contract: a table as comma-separated values.

The first record names the two columns; one record for each variable follows,
in ascending order of names. Texts stand between double quotes, with each
double quote inside written twice and everything else as it stands, line
breaks included; numbers stand bare. Every record ends in a line feed.

Owns: the writer.

Does not own: the order of the names, or the text of a number.
-/

namespace Reckoner.Csv

/-- The characters of a quoted field, with each double quote written twice. -/
def doubleQuotes (characters : List Char) : List Char :=
  characters.flatMap fun character =>
    if character = '\x22' then ['\x22', '\x22'] else [character]

/-- A text as a field between double quotes. -/
def quotedField (text : String) : List Char :=
  '\x22' :: doubleQuotes text.toList ++ ['\x22']

/-- The record of one variable. -/
def record (name : String) (value : Binary64) : List Char :=
  quotedField name ++ ',' :: (Layout.compact.write value).toList ++ ['\n']

/-- The record that names the columns. -/
def header : List Char :=
  quotedField "name" ++ ',' :: quotedField "value" ++ ['\n']

/-- The text of the bindings. -/
def ofItems (items : List (String × Binary64)) : String :=
  String.ofList (header ++ items.flatMap fun (name, value) => record name value)

end Reckoner.Csv

namespace Reckoner

/-- The table as comma-separated values. -/
def Table.csv (table : Table) : String :=
  Csv.ofItems table.items

end Reckoner
