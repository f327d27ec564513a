import Reckoner.Table.Basic

/-!
Contract: the one-line summary of a table.

The summary lists `name=value` for every variable in ascending order of names,
between parentheses and with commas. Its values have no exponent: a whole
number is given by all its digits, any other finite number by the shortest
decimal that reads back, in positional form.

Owns: the text of a value in a summary, and the summary.

Does not own: the order of the names.
-/

namespace Reckoner

/-- The digits of a finite value, without sign and without exponent. -/
def fixedDigits (magnitude : Binary64.Magnitude) : List Char :=
  if magnitude.isWhole then Nat.toDigits 10 magnitude.wholePart
  else (Decimal.shortest magnitude).positional []

/-- A value without an exponent. Both zeros are written `0`. -/
def formatValue : Binary64 → String
  | .finite negative magnitude =>
      String.ofList
        ((if negative && magnitude.units != 0 then ['-'] else []) ++ fixedDigits magnitude)
  | value => value.display

/-- The bindings of a table between parentheses. -/
def Table.summary (table : Table) : String :=
  "(" ++ ",".intercalate (table.items.map fun (name, value) => name ++ "=" ++ formatValue value) ++
    ")"

end Reckoner
