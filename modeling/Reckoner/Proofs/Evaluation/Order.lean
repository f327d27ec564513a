import Reckoner.Proofs.Evaluation.Locality
import Reckoner.Proofs.Table.Views
import Reckoner.Report.Csv
import Reckoner.Report.Summary

/-!
Contract: texts that do not write what the other mentions can be evaluated in
either order.

A text writes the variables of its steps and the identifiers directly before its
markers. A computation does not notice what is written elsewhere, so each text
has the same outcome first or second, whether or not it fails, and each name has
the value that the text which writes it gives it. Names may be bound in another
order; the sorted views do not show that.

Owns: the names that a text writes, and computations with separate footprints.

Does not own: which names a text mentions.
-/

namespace Reckoner

variable {α β : Type}

/-! ### Separate computations -/

namespace EvalM.Touches

variable {firstRead firstWritten secondRead secondWritten : Set String}
  {first : EvalM α} {second : EvalM β}

/-- What a computation leaves agrees with what it found on names that it does
not write. -/
theorem agreeOn_of_apart (firstTouches : Touches firstRead firstWritten first)
    (apart : ∀ name ∈ firstWritten, name ∉ secondRead) (table : Table) :
    (first.runOn table).2.AgreeOn secondRead table :=
  fun name isRead => firstTouches.keeps table fun isWritten => apart name isWritten isRead

/-- Computations of which neither writes what the other reads have the same
outcomes in either order, and leave the same values. -/
theorem comm (firstTouches : Touches firstRead firstWritten first)
    (secondTouches : Touches secondRead secondWritten second)
    (firstWithin : firstWritten ⊆ firstRead) (secondWithin : secondWritten ⊆ secondRead)
    (apart : ∀ name ∈ firstWritten, name ∉ secondRead)
    (apartToo : ∀ name ∈ secondWritten, name ∉ firstRead) (table : Table) :
    (second.runOn (first.runOn table).2).1 = (second.runOn table).1 ∧
      (first.runOn (second.runOn table).2).1 = (first.runOn table).1 ∧
      ∀ name, (second.runOn (first.runOn table).2).2.get? name =
        (first.runOn (second.runOn table).2).2.get? name := by
  obtain ⟨secondOutcome, secondLeaves⟩ :=
    secondTouches.agrees (firstTouches.agreeOn_of_apart apart table)
  obtain ⟨firstOutcome, firstLeaves⟩ :=
    firstTouches.agrees (secondTouches.agreeOn_of_apart apartToo table)
  refine ⟨secondOutcome, firstOutcome, fun name => ?_⟩
  by_cases byFirst : name ∈ firstWritten
  · have notBySecond : name ∉ secondWritten := fun bySecond =>
      apartToo name bySecond (firstWithin byFirst)
    rw [secondTouches.keeps _ notBySecond, firstLeaves name (firstWithin byFirst)]
  · rw [firstTouches.keeps _ byFirst]
    by_cases readBySecond : name ∈ secondRead
    · exact secondLeaves name readBySecond
    · have notBySecond : name ∉ secondWritten := fun bySecond =>
        readBySecond (secondWithin bySecond)
      rw [secondTouches.keeps _ notBySecond, secondTouches.keeps _ notBySecond,
        firstTouches.keeps _ byFirst]

end EvalM.Touches

/-! ### Names that are written -/

/-- The identifiers that stand directly before a marker. -/
def assignedBy (words : List String) : Set String :=
  {name | isIdentifier name.toList = true ∧
    ∃ marker : Marker, (name, marker.spelling) ∈ words.zip words.tail}

instance (name : String) (words : List String) : Decidable (name ∈ assignedBy words) :=
  decidable_of_iff
    (isIdentifier name.toList = true ∧
      ∃ marker ∈ Marker.all, (name, marker.spelling) ∈ words.zip words.tail)
    (and_congr_right fun _ => exists_congr fun marker => and_iff_right marker.mem_all)

/-- The variables that a text may give a new value: those of its steps, and the
identifiers directly before its markers. -/
def Text.written (text : String) : Set String :=
  changedBy (Text.words text) ∪ assignedBy (Text.words text)

instance (name text : String) : Decidable (name ∈ Text.written text) :=
  inferInstanceAs
    (Decidable (name ∈ changedBy (Text.words text) ∨ name ∈ assignedBy (Text.words text)))

/-- No variable that the first text writes is mentioned by the second. -/
def Text.Spares (first second : String) : Prop :=
  ∀ name ∈ Text.written first, name ∉ Text.mentioned second

instance (first second : String) : Decidable (Text.Spares first second) :=
  decidable_of_iff
    (∀ name ∈ (Text.words second).filterMap (fun word => (Lexeme.ofWord word).name?),
      name ∉ Text.written first)
    (forall_congr' fun _ => (imp_congr_left List.mem_filterMap).trans imp_not_comm)

theorem changedBy_mono {words more : List String} (part : words ⊆ more) :
    changedBy words ⊆ changedBy more :=
  fun _ ⟨word, isWord, changes⟩ => ⟨word, part isWord, changes⟩

private theorem assignedBy_subset_cons (word : String) (words : List String) :
    assignedBy words ⊆ assignedBy (word :: words) := by
  rintro name ⟨identifier, marker, adjacent⟩
  refine ⟨identifier, marker, ?_⟩
  cases words with
  | nil => cases adjacent
  | cons next rest => exact List.mem_cons_of_mem _ adjacent

private theorem assignedBy_subset_mentionedBy (words : List String) :
    assignedBy words ⊆ mentionedBy words := by
  rintro name ⟨identifier, marker, adjacent⟩
  refine ⟨name, (List.of_mem_zip adjacent).1, ?_⟩
  rw [Lexeme.ofWord_of_isIdentifier identifier]
  rfl

private theorem Text.written_subset_mentioned (text : String) :
    Text.written text ⊆ Text.mentioned text :=
  Set.union_subset (changedBy_subset_mentionedBy _) (assignedBy_subset_mentionedBy _)

/-- A statement changes what its words write. -/
theorem Statement.changed_subset_of_ofWords {words : List String} {statement : Statement}
    (spelled : ofWords words = .ok statement) :
    statement.changed ⊆ changedBy words ∪ assignedBy words := by
  induction statement generalizing words with
  | expression source =>
      have same := ofWords_of_unmarked (unmarked_of_ofWords_eq_ok_expression spelled)
      rw [same] at spelled
      cases spelled
      exact Set.subset_union_left
  | assignment target marker source inductionHypothesis =>
      obtain ⟨after, assigns, spellsSource⟩ := form_of_ofWords_eq_ok_assignment spelled
      obtain ⟨rfl, identifier, _, _⟩ := Form.ofWords_eq_assignment_iff.mp assigns
      have isPart : after ⊆ target :: marker.spelling :: after := fun word member =>
        List.mem_cons_of_mem _ (List.mem_cons_of_mem _ member)
      have assigned : assignedBy after ⊆ assignedBy (target :: marker.spelling :: after) :=
        (assignedBy_subset_cons _ _).trans (assignedBy_subset_cons _ _)
      refine Set.insert_subset_iff.mpr ⟨.inr ⟨identifier, marker, List.mem_cons_self⟩, ?_⟩
      exact (inductionHypothesis spellsSource).trans
        (Set.union_subset_union (changedBy_mono isPart) assigned)

theorem evaluate_touches_written (text : String) :
    EvalM.Touches (Text.mentioned text) (Text.written text) (evaluate text) := by
  rw [evaluate]
  cases spelled : Statement.ofText text with
  | error error => exact .ofExcept (.error error)
  | ok statement =>
      rw [EvalM.ofExcept_ok_bind]
      exact Statement.execute_touches (Statement.mentioned_subset_of_ofWords spelled)
        (Statement.changed_subset_of_ofWords spelled)

/-! ### Texts in either order -/

/-- **Separate texts commute.** Where neither of two texts writes a variable that
the other mentions, each has the same outcome in either order, and both orders
leave the same values and the same views of them. -/
theorem evaluate_comm (first second : String) (table : Table)
    (apart : Text.Spares first second) (apartToo : Text.Spares second first) :
    let firstRun := (evaluate first).runOn table
    let secondRun := (evaluate second).runOn table
    let secondAfterFirst := (evaluate second).runOn firstRun.2
    let firstAfterSecond := (evaluate first).runOn secondRun.2
    firstAfterSecond.1 = firstRun.1 ∧ secondAfterFirst.1 = secondRun.1 ∧
      (∀ name, secondAfterFirst.2.get? name = firstAfterSecond.2.get? name) ∧
      secondAfterFirst.2.summary = firstAfterSecond.2.summary ∧
      secondAfterFirst.2.csv = firstAfterSecond.2.csv := by
  intro firstRun secondRun secondAfterFirst firstAfterSecond
  obtain ⟨secondOutcome, firstOutcome, sameValues⟩ :=
    (evaluate_touches_written first).comm (evaluate_touches_written second)
      (Text.written_subset_mentioned first) (Text.written_subset_mentioned second)
      apart apartToo table
  have sameItems : secondAfterFirst.2.items = firstAfterSecond.2.items :=
    Table.items_eq_of_get? sameValues
  refine ⟨firstOutcome, secondOutcome, sameValues, ?_, ?_⟩
  · rw [Table.summary, sameItems, Table.summary]
  · rw [Table.csv, sameItems, Table.csv]

theorem evaluate_comm_of_failing_cascade :
    ∃ table : Table,
      Text.Spares "a += b = ++z" "c = p-- / w" ∧ Text.Spares "c = p-- / w" "a += b = ++z" ∧
      let firstRun := (evaluate "a += b = ++z").runOn table
      let secondRun := (evaluate "c = p-- / w").runOn table
      let secondAfterFirst := (evaluate "c = p-- / w").runOn firstRun.2
      let firstAfterSecond := (evaluate "a += b = ++z").runOn secondRun.2
      firstRun.1 = .error (.undefinedVariable "a" none) ∧ firstAfterSecond.1 = firstRun.1 ∧
        secondAfterFirst.1 = secondRun.1 ∧
        secondAfterFirst.2.bindings.map Prod.fst = ["z", "p", "w", "b", "c"] ∧
        firstAfterSecond.2.bindings.map Prod.fst = ["z", "p", "w", "c", "b"] ∧
        secondAfterFirst.2.csv = firstAfterSecond.2.csv := by
  let table : Table := ((∅ : Table).set "z" .one).set "p" .one |>.set "w" .one
  have apart : Text.Spares "a += b = ++z" "c = p-- / w" := by decide +kernel
  have apartToo : Text.Spares "c = p-- / w" "a += b = ++z" := by decide +kernel
  obtain ⟨firstOutcome, secondOutcome, _, _, sameCsv⟩ := evaluate_comm _ _ table apart apartToo
  exact ⟨table, apart, apartToo, by decide +kernel, firstOutcome, secondOutcome,
    by decide +kernel, by decide +kernel, sameCsv⟩

end Reckoner
