import Reckoner.Table.Basic

/-!
Contract: binding names to numbers that come from outside.

A number that a caller hands in is a double already, or an integer of any
size. An integer becomes the nearest double, a tie going to the even one; an
integer that would round to an infinity is refused before anything changes.

Owns: numbers of either kind, their conversion, and tables built from them.

Does not own: numbers inside expressions.
-/

namespace Reckoner

/-- A number handed in by a caller. -/
inductive Number where
  | double (value : Binary64)
  | integer (value : Int)
deriving DecidableEq

/-- Why a number cannot be bound. -/
inductive NumberError where
  | integerTooLarge
deriving DecidableEq, Repr

def NumberError.message : NumberError → String
  | .integerTooLarge => "int too large to convert to float"

/-- The double that stands for a number. -/
def Number.toBinary64 : Number → Except NumberError Binary64
  | .double value => .ok value
  | .integer value =>
      match Binary64.ofInt? value with
      | some nearest => .ok nearest
      | none => .error .integerTooLarge

namespace Table

/-- Binds a name to a number. -/
def setNumber (table : Table) (name : String) (number : Number) :
    Except NumberError Table := do
  let value ← number.toBinary64
  return table.set name value

/-- The table of a mapping that may repeat names; only the last number of each
name counts, also for the refusal of large integers. -/
def ofNumbers (pairs : List (String × Number)) : Except NumberError Table :=
  (Pairs.lastValues pairs).foldlM (fun table (name, number) => table.setNumber name number) ∅

end Table

end Reckoner
