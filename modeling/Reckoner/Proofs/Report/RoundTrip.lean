import Reckoner.Proofs.Assignment.Separation
import Reckoner.Proofs.Report.Pieces
import Reckoner.Proofs.Session.Names
import Reckoner.Proofs.Table.Views

/-!
Contract: a summary rebuilds its table.

A session that began empty holds identifiers only, as long as numbers are bound to
these only. If its values are finite, then the assignments that its summary shows,
evaluated on an empty table, bind the same names to the same numbers; only the sign
of a zero is lost. Main statement: the summary determines the table up to the signs
of its zeros.

Owns: tables as they are shown, and what the assignments of a summary do.

Does not own: the texts of names and values.
-/

namespace Reckoner

open Summary (Readable)
open Text (joinWords)

namespace Table

/-- All values of the table are finite. -/
def IsFinite (table : Table) : Prop :=
  ∀ value ∈ table.values, value.isFinite = true

/-- The tables bind the same names, each to the same number. -/
def SameNumbers (first second : Table) : Prop :=
  ∀ name, Option.Rel (fun left right => left.sameNumber right = true)
    (first.get? name) (second.get? name)

/-- The table with its values as a summary shows them. -/
def shown (table : Table) : Table :=
  .ofPairs (table.items.map fun (name, value) => (name, value.shown))

variable {first second : Table}

/-! ### Tables as they are shown -/

theorem items_shown (table : Table) :
    table.shown.items = table.items.map fun (name, value) => (name, value.shown) := by
  apply items_ofPairs
  rw [List.map_map]
  exact table.names_ascending

theorem names_shown (table : Table) : table.shown.names = table.names := by
  rw [names, items_shown, List.map_map]
  rfl

theorem get?_shown (table : Table) (name : String) :
    table.shown.get? name = (table.get? name).map Binary64.shown :=
  get?_eq_map_of_items table.items_shown name

theorem summary_shown (table : Table) : table.shown.summary = table.summary := by
  rw [summary, items_shown, List.map_map, summary]
  congr 3
  apply List.map_congr_left
  rintro ⟨name, value⟩ _
  simp only [Function.comp_apply, formatValue_shown]

theorem IsFinite.isFinite_of_get? {table : Table} (finite : table.IsFinite) {name : String}
    {value : Binary64} (bound : table.get? name = some value) : value.isFinite = true :=
  finite value (List.mem_map.mpr ⟨(name, value), mem_items_iff.mpr bound, rfl⟩)

private theorem isFinite_of_bindings {table : Table}
    (finite : ∀ entry ∈ table.bindings, entry.2.isFinite = true) : table.IsFinite := by
  intro value listed
  obtain ⟨entry, isEntry, rfl⟩ := List.mem_map.mp listed
  exact finite entry (table.items_perm.mem_iff.mp isEntry)

/-- Finite tables hold the same numbers exactly if they are shown alike. -/
theorem sameNumbers_iff (firstFinite : first.IsFinite) (secondFinite : second.IsFinite) :
    first.SameNumbers second ↔ ∀ name, first.shown.get? name = second.shown.get? name := by
  apply forall_congr'
  intro name
  rw [get?_shown, get?_shown]
  cases inFirst : first.get? name with
  | none =>
      cases inSecond : second.get? name with
      | none => exact ⟨fun _ => rfl, fun _ => .none⟩
      | some right =>
          exact iff_of_false (fun impossible => nomatch impossible)
            (fun impossible => nomatch impossible)
  | some left =>
      cases inSecond : second.get? name with
      | none =>
          exact iff_of_false (fun impossible => nomatch impossible)
            (fun impossible => nomatch impossible)
      | some right =>
          have shownAlike := Binary64.sameNumber_iff_shown_eq
            (firstFinite.isFinite_of_get? inFirst) (secondFinite.isFinite_of_get? inSecond)
          constructor
          · rintro (⟨same⟩ | _)
            exact congrArg some (shownAlike.mp same)
          · exact fun same => .some (shownAlike.mpr (Option.some.inj same))

theorem IsFinite.sameNumbers_shown {table : Table} (finite : table.IsFinite) :
    table.shown.SameNumbers table := by
  intro name
  rw [get?_shown]
  cases bound : table.get? name with
  | none => exact .none
  | some value =>
      have isFinite := finite.isFinite_of_get? bound
      exact .some ((Binary64.sameNumber_iff_shown_eq
        ((Binary64.isFinite_shown value).trans isFinite) isFinite).mpr value.shown_shown)

private theorem readable_of_mem_items {table : Table} (identifiers : table.HasIdentifiers)
    (finite : table.IsFinite) : ∀ entry ∈ table.items, Readable entry := by
  rintro ⟨name, value⟩ listed
  have bound := mem_items_iff.mp listed
  exact ⟨identifiers name (contains_iff.mpr ⟨value, bound⟩), finite.isFinite_of_get? bound⟩

end Table

/-! ### Assignments of numbers -/

theorem runOn_evaluateWords_number {word : String} {value : Binary64}
    (spells : Lexeme.ofWord word = .number value) (table : Table) :
    (evaluateWords [word]).runOn table = (.ok value, table) := by
  have tokens : Token.ofWords [word] = [⟨.number value, 1⟩] := by
    simp [Token.ofWords, spells]
  have resolved : (resolveAll [⟨.number value, 1⟩]).runOn table =
      (.ok [⟨.number value, 1⟩], table) := rfl
  rw [evaluateWords, tokens, EvalM.runOn_bind_of_ok resolved]
  rfl

private theorem Marker.spelling_ne_formatValue (marker : Marker) {value : Binary64}
    (finite : value.isFinite = true) : marker.spelling ≠ formatValue value := by
  intro same
  have equality : '=' ∈ marker.spelling.toList := by
    cases marker with
    | plain => decide
    | compound operator => simp [spelling]
  rw [same] at equality
  exact absurd ((formatValue_characters finite).2 '=' equality).2 (by decide)

namespace Summary

variable {entry : String × Binary64}

/-- The assignment that a piece shows. -/
def Readable.cascade (readable : Readable entry) : Cascade where
  stages := [⟨entry.1, .plain⟩]
  source := [formatValue entry.2]
  identifiers := by simp [readable.identifier]
  ascending := .cons (by simp) .nil
  source_ne_nil := by simp
  source_unmarked := fun marker isValue =>
    marker.spelling_ne_formatValue readable.finite (List.mem_singleton.mp isValue)

/-- The assignment of a piece binds the name to the value that is shown. -/
theorem Readable.runOn_evaluate (readable : Readable entry) (table : Table) :
    (evaluate (joinWords (words entry))).runOn table =
      (.ok entry.2.shown, table.set entry.1 entry.2.shown) := by
  have statement : evaluate (joinWords (words entry)) =
      (Statement.assignment entry.1 .plain (.expression [formatValue entry.2])).execute :=
    readable.cascade.evaluate_of_words readable.words_joinWords
  have source : (Statement.expression [formatValue entry.2]).execute.runOn table =
      (.ok entry.2.shown, table) :=
    runOn_evaluateWords_number (ofWord_formatValue readable.finite) table
  rw [statement, Statement.runOn_execute_assignment, source]
  rfl

/-- The assignments of several pieces succeed and make a table of what is shown. -/
theorem runOn_evaluateInTurn {entries : List (String × Binary64)} :
    (∀ entry ∈ entries, Readable entry) →
      ∃ last, (evaluateInTurn (entries.map fun entry => joinWords (words entry))).runOn ∅ =
        (.ok last, .ofPairs (entries.map fun (name, value) => (name, value.shown))) := by
  induction entries using List.reverseRecOn with
  | nil => exact fun _ => ⟨none, rfl⟩
  | append_singleton entries entry inductionHypothesis =>
      intro readable
      rw [List.forall_mem_append, List.forall_mem_singleton] at readable
      obtain ⟨last, ran⟩ := inductionHypothesis readable.1
      refine ⟨some entry.2.shown, ?_⟩
      rw [List.map_append, List.map_append, List.map_singleton, List.map_singleton,
        evaluateInTurn_append, EvalM.runOn_bind_of_ok ran, map_eq_pure_bind,
        EvalM.runOn_bind_of_ok (readable.2.runOn_evaluate _), Table.ofPairs_concat]
      rfl

end Summary

namespace Table

variable {first second table : Table}

/-- The assignments of a summary leave the table that it shows. -/
theorem runOn_assignments_summary (identifiers : table.HasIdentifiers) (finite : table.IsFinite) :
    ∃ last, (evaluateInTurn (Summary.assignments table.summary)).runOn ∅ =
      (.ok last, table.shown) := by
  have readable := readable_of_mem_items identifiers finite
  rw [Summary.assignments_summary readable]
  exact Summary.runOn_evaluateInTurn readable

/-- Tables of identifiers with finite values have one summary exactly if they
hold the same numbers. -/
theorem summary_eq_iff (firstIdentifiers : first.HasIdentifiers) (firstFinite : first.IsFinite)
    (secondIdentifiers : second.HasIdentifiers) (secondFinite : second.IsFinite) :
    first.summary = second.summary ↔ first.SameNumbers second := by
  rw [sameNumbers_iff firstFinite secondFinite]
  constructor
  · -- What the assignments leave depends on the summary alone.
    intro same name
    obtain ⟨firstLast, firstRan⟩ := runOn_assignments_summary firstIdentifiers firstFinite
    obtain ⟨secondLast, secondRan⟩ := runOn_assignments_summary secondIdentifiers secondFinite
    rw [same] at firstRan
    have rebuilt : first.shown = second.shown :=
      congrArg Prod.snd (firstRan.symm.trans secondRan)
    rw [rebuilt]
  · intro same
    have items : first.shown.items = second.shown.items := items_eq_of_get? same
    rw [← first.summary_shown, ← second.summary_shown, summary, summary, items]

end Table

/-- **A summary rebuilds its table.** If a session began empty, numbers were bound to
identifiers only, and all its values are finite, then each assignment that its
summary shows succeeds on an empty table; together they bind the same names to the
same numbers, and the table has the same summary. Any two such sessions have one
summary exactly if they bind the same names to the same numbers. -/
theorem Session.summary_rebuilds_table (uses : List Use)
    (named : ∀ further ∈ uses, further.bindsIdentifier = true)
    (finite : (({} : Session).useAll uses).table.IsFinite) :
    let table := (({} : Session).useAll uses).table
    (∃ last rebuilt,
      (evaluateInTurn (Summary.assignments table.summary)).runOn ∅ = (.ok last, rebuilt) ∧
        rebuilt.names = table.names ∧ rebuilt.SameNumbers table ∧
        rebuilt.summary = table.summary) ∧
      ∀ others : List Use, (∀ further ∈ others, further.bindsIdentifier = true) →
        let other := (({} : Session).useAll others).table
        other.IsFinite → (other.summary = table.summary ↔ other.SameNumbers table) := by
  intro table
  have identifiers : table.HasIdentifiers :=
    useAll_hasIdentifiers uses Table.hasIdentifiers_empty named
  obtain ⟨last, ran⟩ := Table.runOn_assignments_summary identifiers finite
  constructor
  · exact ⟨last, table.shown, ran, table.names_shown, finite.sameNumbers_shown, table.summary_shown⟩
  · intro others otherNamed other otherFinite
    have otherIdentifiers : other.HasIdentifiers :=
      useAll_hasIdentifiers others Table.hasIdentifiers_empty otherNamed
    exact Table.summary_eq_iff otherIdentifiers otherFinite identifiers finite

theorem Session.summary_rebuilds_table_after_failure :
    ∃ uses others : List Use,
      let table := (({} : Session).useAll uses).table
      let other := (({} : Session).useAll others).table
      table.bindings.map Prod.fst = ["b", "a"] ∧ table.get? "b" = some (.finite true .zero) ∧
        table.IsFinite ∧ other.IsFinite ∧
        (∃ last rebuilt,
          (evaluateInTurn (Summary.assignments table.summary)).runOn ∅ = (.ok last, rebuilt) ∧
            rebuilt.names = table.names ∧ rebuilt.SameNumbers table ∧
            rebuilt.summary = table.summary) ∧
        other.summary ≠ table.summary := by
  let uses : List Use := [.evaluate "b = -0", .evaluate "a = 1 / 3", .evaluate "c = a % b"]
  let others : List Use := [.evaluate "a = 1 / 3"]
  have zero : (({} : Session).useAll uses).table.get? "b" = some (.finite true .zero) := by
    decide +kernel
  have absent : (({} : Session).useAll others).table.get? "b" = none := by decide +kernel
  have finite : (({} : Session).useAll uses).table.IsFinite :=
    Table.isFinite_of_bindings (by decide +kernel)
  have otherFinite : (({} : Session).useAll others).table.IsFinite :=
    Table.isFinite_of_bindings (by decide +kernel)
  obtain ⟨rebuilds, determines⟩ := summary_rebuilds_table uses (by decide +kernel) finite
  refine ⟨uses, others, by decide +kernel, zero, finite, otherFinite, rebuilds, ?_⟩
  intro same
  have related := (determines others (by decide +kernel) otherFinite).mp same "b"
  rw [absent, zero] at related
  cases related

end Reckoner
