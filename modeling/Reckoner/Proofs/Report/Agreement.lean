import Reckoner.Proofs.Report.CsvRecords
import Reckoner.Proofs.Report.Pieces
import Reckoner.Proofs.Table.Views

/-!
Contract: all views of a table list the same entries.

A table is seen as sorted pairs, as sorted names, as a mapping in its own
order, as two columns, as a summary, and as comma-separated values. Main
statements: each of them is made of the same pairs in the same order; and these
are the same for tables with the same look-ups.

Owns: what it is for every view to show given entries, and that the sorted
pairs are these entries.

Does not own: how a table came about.
-/

namespace Reckoner

namespace Pairs

variable {α : Type}

private theorem put_of_absent {name : String} {value : α} {pairs : List (String × α)}
    (absent : name ∉ pairs.map Prod.fst) : put name value pairs = pairs ++ [(name, value)] := by
  induction pairs with
  | nil => rfl
  | cons pair rest inductionHypothesis =>
      rw [List.map_cons, List.mem_cons, not_or] at absent
      rw [put, if_neg (Ne.symm absent.1), inductionHypothesis absent.2, List.cons_append]

/-- A mapping made of names that stand once keeps their order. -/
theorem lastValues_of_nodup {pairs : List (String × α)} :
    (pairs.map Prod.fst).Nodup → lastValues pairs = pairs := by
  induction pairs using List.reverseRecOn with
  | nil => exact fun _ => rfl
  | append_singleton pairs last inductionHypothesis =>
      intro distinct
      rw [List.map_append, List.nodup_append] at distinct
      obtain ⟨distinctBefore, _, apart⟩ := distinct
      have absent : last.1 ∉ pairs.map Prod.fst :=
        fun present => apart _ present last.1 (by simp) rfl
      have merged : lastValues (pairs ++ [last]) = put last.1 last.2 (lastValues pairs) :=
        List.foldl_append
      rw [merged, inductionHypothesis distinctBefore, put_of_absent absent]

end Pairs

namespace Table

/-- Every view of the table shows these entries, in this order. -/
structure Shows (table : Table) (entries : List (String × Binary64)) : Prop where
  items : table.items = entries
  names : table.names = entries.map Prod.fst
  /-- Sorting the names by themselves makes no difference. -/
  sortedNames : (table.bindings.map Prod.fst).mergeSort (fun left right => decide (left ≤ right)) =
    entries.map Prod.fst
  /-- The mapping made of the items keeps their order. -/
  mapping : (ofPairs table.items).bindings = entries
  columns : table.names.zip table.values = entries
  summary : table.summary = "(" ++ ",".intercalate (entries.map Summary.piece) ++ ")"
  csv : ∃ records, Csv.records? table.csv = some (["name", "value"] :: records) ∧
    List.Forall₂ Csv.Holds records entries

private theorem mergeSort_names (table : Table) :
    (table.bindings.map Prod.fst).mergeSort (fun left right => decide (left ≤ right)) =
      table.names := by
  symm
  apply List.map_mergeSort
  intro left _ right _
  rfl

/-- **All views of a table show its items.** -/
theorem shows_items (table : Table) : table.Shows table.items where
  items := rfl
  names := rfl
  sortedNames := table.mergeSort_names
  mapping := Pairs.lastValues_of_nodup table.names_ascending.nodup
  columns := (List.zip_of_prod rfl rfl).symm
  summary := rfl
  csv := ⟨_, Csv.records?_ofItems table.items, Csv.holds_records table.items⟩

/-- Tables with the same look-ups show the same entries, in the same texts. -/
theorem shows_of_get? {table other : Table} (same : ∀ name, other.get? name = table.get? name) :
    other.Shows table.items ∧ other.size = table.size ∧ other.summary = table.summary ∧
      other.csv = table.csv ∧ other.display = table.display := by
  have items : other.items = table.items := items_eq_of_get? same
  refine ⟨items ▸ other.shows_items, ?_, ?_, ?_, ?_⟩
  · rw [← length_items, ← length_items, items]
  · rw [summary, summary, items]
  · rw [csv, csv, items]
  · unfold display
    rw [items]

end Table

end Reckoner
