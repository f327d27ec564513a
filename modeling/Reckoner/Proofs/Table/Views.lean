import Mathlib.Data.List.Induction
import Mathlib.Data.List.Sort
import Reckoner.Table.Lemmas

/-!
Contract: the sorted views of a table are determined by its look-ups.

The order in which names were bound cannot be seen. Main statements: tables
that bind the same names list them alike; an ascending list of the bindings is
the sorted view; and an ascending list of pairs is the view of the table that is
made of them.

Owns: names and values in terms of look-up, what a list needs to be a sorted
view, and the view of a table made of pairs.

Does not own: texts that are made of a view.
-/

namespace Reckoner

/-- Lists that ascend strictly in a key are equal if they have the same members. -/
theorem eq_of_ascending {α : Type} (key : α → String) {first second : List α}
    (firstAscends : (first.map key).Pairwise (· < ·))
    (secondAscends : (second.map key).Pairwise (· < ·))
    (same : ∀ entry, entry ∈ first ↔ entry ∈ second) : first = second := by
  have irreflexive : Std.Irrefl fun left right => key left < key right :=
    ⟨fun left => String.lt_irrefl (key left)⟩
  have antisymmetric : Std.Antisymm fun left right => key left < key right :=
    ⟨fun left right below above =>
      absurd (String.lt_trans below above) (String.lt_irrefl (key left))⟩
  exact (List.pairwise_map.mp firstAscends).eq_of_mem_iff (List.pairwise_map.mp secondAscends) same

namespace Table

variable {first second : Table}

theorem get?_eq_none_iff {table : Table} {name : String} :
    table.get? name = none ↔ table.contains name = false := by
  rw [contains, Option.isSome_eq_false_iff, Option.isNone_iff_eq_none]

theorem mem_names_iff {table : Table} {name : String} :
    name ∈ table.names ↔ table.contains name = true := by
  rw [names, List.mem_map, contains_iff]
  constructor
  · rintro ⟨⟨_, value⟩, listed, rfl⟩
    exact ⟨value, mem_items_iff.mp listed⟩
  · rintro ⟨value, bound⟩
    exact ⟨(name, value), mem_items_iff.mpr bound, rfl⟩

/-- Tables that bind the same names list them in the same order. -/
theorem names_eq_of_contains (same : ∀ name, first.contains name = second.contains name) :
    first.names = second.names := by
  apply eq_of_ascending id
  · rw [List.map_id]
    exact first.names_ascending
  · rw [List.map_id]
    exact second.names_ascending
  · intro name
    rw [mem_names_iff, mem_names_iff, same]

/-- An ascending list of the bindings is the sorted view. -/
theorem items_eq_of_mem_iff {table : Table} {entries : List (String × Binary64)}
    (ascending : (entries.map Prod.fst).Pairwise (· < ·))
    (same : ∀ name value, (name, value) ∈ entries ↔ table.get? name = some value) :
    table.items = entries := by
  apply eq_of_ascending Prod.fst table.names_ascending ascending
  rintro ⟨name, value⟩
  rw [mem_items_iff, same]

/-- Tables with the same values have the same view. -/
theorem items_eq_of_get? (same : ∀ name, first.get? name = second.get? name) :
    first.items = second.items := by
  apply items_eq_of_mem_iff second.names_ascending
  intro name value
  rw [mem_items_iff, same]

/-- The view of a table with other values in the same places has those values. -/
theorem get?_eq_map_of_items {change : Binary64 → Binary64}
    (changed : first.items = second.items.map fun (name, value) => (name, change value))
    (name : String) : first.get? name = (second.get? name).map change := by
  cases found : second.get? name with
  | some value =>
      apply mem_items_iff.mp
      rw [changed]
      exact List.mem_map.mpr ⟨(name, value), mem_items_iff.mpr found, rfl⟩
  | none =>
      apply get?_eq_none_iff.mpr
      have sameNames : first.names = second.names := by
        rw [names, changed, List.map_map]
        rfl
      rw [Bool.eq_false_iff, ne_eq, ← mem_names_iff, sameNames, mem_names_iff, ← ne_eq,
        ← Bool.eq_false_iff, ← get?_eq_none_iff]
      exact found

/-! ### Tables made of pairs -/

theorem ofPairs_concat (pairs : List (String × Binary64)) (name : String) (value : Binary64) :
    ofPairs (pairs ++ [(name, value)]) = (ofPairs pairs).set name value := by
  have bindings : Pairs.lastValues (pairs ++ [(name, value)]) =
      Pairs.put name value (Pairs.lastValues pairs) := by
    rw [Pairs.lastValues, List.foldl_append]
    rfl
  simp only [ofPairs, set, bindings]

/-- Pairs with names of their own are all bound. -/
theorem get?_ofPairs_eq_some_iff {pairs : List (String × Binary64)} {name : String}
    {value : Binary64} : (pairs.map Prod.fst).Nodup →
      ((ofPairs pairs).get? name = some value ↔ (name, value) ∈ pairs) := by
  induction pairs using List.reverseRecOn with
  | nil =>
      intro _
      constructor
      · exact fun impossible => nomatch impossible
      · exact fun impossible => nomatch impossible
  | append_singleton pairs last inductionHypothesis =>
      obtain ⟨other, lastValue⟩ := last
      intro distinct
      rw [List.map_append, List.nodup_append] at distinct
      obtain ⟨distinctBefore, _, apart⟩ := distinct
      have absent (found : (other, value) ∈ pairs) : False :=
        apart other (List.mem_map.mpr ⟨_, found, rfl⟩) other (by simp) rfl
      rw [ofPairs_concat, get?_set, List.mem_append, List.mem_singleton]
      by_cases same : name = other
      · subst same
        simp only [if_true, Option.some.injEq, Prod.mk.injEq, true_and]
        exact ⟨fun isValue => .inr isValue.symm,
          fun found => found.elim (fun early => (absent early).elim) Eq.symm⟩
      · simp only [Prod.mk.injEq, same, if_false, false_and, or_false]
        exact inductionHypothesis distinctBefore

/-- An ascending list of pairs is the view of the table made of it. -/
theorem items_ofPairs {pairs : List (String × Binary64)}
    (ascending : (pairs.map Prod.fst).Pairwise (· < ·)) : (ofPairs pairs).items = pairs :=
  items_eq_of_mem_iff ascending fun _ _ =>
    (get?_ofPairs_eq_some_iff ascending.nodup).symm

end Table

end Reckoner
