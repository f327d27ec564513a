/-!
Contract: the pieces that printed text is put together from.

Owns: lines and enclosed text.

Does not own: any message.
-/

namespace Reckoner.Text

/-- A line with the line feed that ends it. -/
def line (text : String) : String :=
  text ++ "\n"

/-- A text between apostrophes, as it stands. -/
def enclosed (text : String) : String :=
  "'" ++ text ++ "'"

end Reckoner.Text
