import Reckoner.Table.Basic

/-!
Contract: the laws of tables, seen through `get?`.

Owns: what binding a name does to every look-up, that the sorted view holds
exactly the bindings, and that its names ascend.

Does not own: the definitions.
-/

namespace Reckoner

namespace Table

variable {table : Table} {name other : String} {value : Binary64}

/-! ### Look-up -/

@[simp] theorem get?_empty : (∅ : Table).get? name = none := rfl

theorem get?_set (table : Table) (name other : String) (value : Binary64) :
    (table.set name value).get? other =
      if other = name then some value else table.get? other :=
  Pairs.lookup_put name other value table.bindings

@[simp] theorem get?_set_self : (table.set name value).get? name = some value := by
  rw [get?_set, if_pos rfl]

theorem get?_set_of_ne (different : other ≠ name) :
    (table.set name value).get? other = table.get? other := by
  rw [get?_set, if_neg different]

theorem contains_iff : table.contains name = true ↔ ∃ value, table.get? name = some value := by
  rw [contains, Option.isSome_iff_exists]

/-! ### The sorted view -/

theorem items_perm (table : Table) : table.items.Perm table.bindings :=
  Pairs.sorted_perm table.bindings

theorem mem_items_iff : (name, value) ∈ table.items ↔ table.get? name = some value := by
  rw [table.items_perm.mem_iff, get?, Pairs.mem_iff_lookup_eq_some table.names_nodup]

theorem length_items (table : Table) : table.items.length = table.size :=
  table.items_perm.length_eq

/-- The view lists each name once, in ascending order. -/
theorem names_ascending (table : Table) : table.names.Pairwise (· < ·) :=
  Pairs.sorted_ascending table.names_nodup

end Table

end Reckoner
