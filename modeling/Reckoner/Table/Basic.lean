import Reckoner.Decimal.Layout
import Reckoner.Pairs
import Reckoner.Text.Quoted

/-!
Contract: the table of variables.

A table binds each of its names to one number. Names are any text. A name
keeps its place when it is bound again, and no operation removes one. Every
view of a table lists its bindings in ascending order of their names, by code
points, so the order in which names were bound is not seen.

Owns: the type, look-up, binding, the sorted views, and the written forms of
a table and of a single variable.

Does not own: what an absent name means to an expression.
-/

namespace Reckoner

/-- The names of the variables with their values. -/
structure Table where
  bindings : List (String × Binary64) := []
  /-- Each name is bound once. -/
  names_nodup : (bindings.map Prod.fst).Nodup := by simp
deriving DecidableEq

namespace Table

def empty : Table := {}

instance : EmptyCollection Table := ⟨empty⟩

instance : Inhabited Table := ⟨empty⟩

/-- The value of a name, if it has one. -/
def get? (table : Table) (name : String) : Option Binary64 :=
  table.bindings.lookup name

def contains (table : Table) (name : String) : Bool :=
  (table.get? name).isSome

/-- The number of names. -/
def size (table : Table) : Nat :=
  table.bindings.length

/-- Binds a name to a value, whether or not it is bound already. -/
def set (table : Table) (name : String) (value : Binary64) : Table where
  bindings := Pairs.put name value table.bindings
  names_nodup := Pairs.nodup_put table.names_nodup

/-- The table of pairs that may repeat names; the last value of a name stays. -/
def ofPairs (pairs : List (String × Binary64)) : Table where
  bindings := Pairs.lastValues pairs
  names_nodup := Pairs.nodup_lastValues pairs

/-- The bindings in ascending order of their names. -/
def items (table : Table) : List (String × Binary64) :=
  Pairs.sorted table.bindings

/-- The names in ascending order. -/
def names (table : Table) : List String :=
  table.items.map Prod.fst

/-- The values in ascending order of their names. -/
def values (table : Table) : List Binary64 :=
  table.items.map Prod.snd

/-- The table with its names between quotation marks. -/
def display (table : Table) : String :=
  "VariableTable(\x7b" ++
    ", ".intercalate
      (table.items.map fun (name, value) => Text.quote name ++ ": " ++ value.display) ++
    "\x7d)"

end Table

/-- A single variable. -/
structure Variable where
  name : String
  value : Binary64
deriving DecidableEq

/-- The variable with its name as it stands, between apostrophes. -/
def Variable.display (entry : Variable) : String :=
  "Var(name='" ++ entry.name ++ "', value=" ++ entry.value.display ++ ")"

end Reckoner
