import Reckoner.Proofs.Assignment.Compound

/-!
Contract: an assignment, seen from the evaluation of its source.

The source of an assignment is a text of its own. Whatever it does to the table
is done first; then a compound marker reads the target, and the target is bound
last. Main statement: an assignment fails as its source does, and otherwise ends
as the rules of `Completes` say, from the table that the source leaves.

Owns: these rules, and the reading of an assignment as a target, a marker and
the text of its source.

Does not own: which words are an assignment.
-/

namespace Reckoner

open Statement (Form)

variable {target text source : String} {marker : Marker} {operator : Operator}
  {table left : Table} {value : Binary64}

/-- How an assignment ends once its source has a value: its outcome and the table
behind it, from the table that the source leaves. -/
inductive Completes (target : String) (value : Binary64) (left : Table) :
    Marker → Except EvalError Binary64 × Table → Prop where
  | plain : Completes target value left .plain (.ok value, left.set target value)
  | unbound {operator : Operator} (absent : left.get? target = none) :
      Completes target value left (.compound operator)
        (.error (.undefinedVariable target none), left)
  | refused {operator : Operator} {old : Binary64} (bound : left.get? target = some old)
      (refuses : operator.Refuses value) :
      Completes target value left (.compound operator)
        (.error (.divisionByZero operator.symbol), left)
  | combined {operator : Operator} {old result : Binary64} (bound : left.get? target = some old)
      (accepts : ¬ operator.Refuses value)
      (calculated : calculate old value operator.symbol = .ok result) :
      Completes target value left (.compound operator) (.ok result, left.set target result)

/-! ### Completion -/

/-- What an assignment does with the value of its source. -/
def complete (target : String) (marker : Marker) (value : Binary64) : EvalM Binary64 := do
  let result ← marker.combine target value
  assign target result
  return result

private theorem completes_complete (target : String) (marker : Marker) (value : Binary64)
    (left : Table) :
    Completes target value left marker ((complete target marker value).runOn left) := by
  cases marker with
  | plain => exact .plain
  | compound operator =>
      cases found : left.get? target with
      | none =>
          have fails : (lookUp target).runOn left =
              (.error (.undefinedVariable target none), left) := by
            rw [runOn_lookUp, found]
          have stopped : ((Marker.compound operator).combine target value).runOn left =
              (.error (.undefinedVariable target none), left) := EvalM.runOn_bind_of_error fails
          rw [complete, EvalM.runOn_bind_of_error stopped]
          exact .unbound found
      | some old =>
          have reads : (lookUp target).runOn left = (.ok old, left) :=
            runOn_lookUp_eq_ok_iff.mpr ⟨found, rfl⟩
          have combined : ((Marker.compound operator).combine target value).runOn left =
              (operator.apply old value, left) := EvalM.runOn_bind_of_ok reads
          by_cases refuses : operator.Refuses value
          · rw [Operator.apply_of_refuses refuses] at combined
            rw [complete, EvalM.runOn_bind_of_error combined]
            exact .refused found refuses
          · obtain ⟨result, applied⟩ := Operator.exists_apply_eq_ok refuses old
            rw [applied] at combined
            rw [complete, EvalM.runOn_bind_of_ok combined]
            exact .combined found refuses (by rw [calculate_symbol, applied])

/-- The rules leave no choice. -/
theorem Completes.unique {outcome other : Except EvalError Binary64 × Table}
    (completes : Completes target value left marker outcome)
    (completesToo : Completes target value left marker other) : outcome = other := by
  cases completes with
  | plain =>
      cases completesToo
      rfl
  | unbound absent =>
      cases completesToo with
      | unbound _ => rfl
      | refused bound _ => cases absent.symm.trans bound
      | combined bound _ _ => cases absent.symm.trans bound
  | refused bound refuses =>
      cases completesToo with
      | unbound absent => cases absent.symm.trans bound
      | refused _ _ => rfl
      | combined _ accepts _ => exact absurd refuses accepts
  | combined bound accepts calculated =>
      cases completesToo with
      | unbound absent => cases absent.symm.trans bound
      | refused _ refuses => exact absurd refuses accepts
      | combined boundToo _ calculatedToo =>
          cases bound.symm.trans boundToo
          cases calculated.symm.trans calculatedToo
          rfl

/-! ### Assignments -/

/-- Where the words of a text assign, its evaluation is that of its source, and
then the completion. -/
theorem evaluate_of_form (assigns : Form.ofWords (Text.words text) =
    .assignment target marker (Text.words source)) :
    evaluate text = evaluate source >>= complete target marker := by
  rw [evaluate, Statement.ofText, Statement.ofWords_eq, assigns, evaluate, Statement.ofText]
  dsimp only
  cases Statement.ofWords (Text.words source) with
  | error error => rfl
  | ok statement => rfl

/-- The first marker of a text assigns if it is not repeated behind it. -/
theorem form_of_first (identifier : isIdentifier target.toList = true)
    (nonempty : Text.words source ≠ [])
    (spelled : Text.words text = target :: marker.spelling :: Text.words source)
    (first : Marker.firstIn? (Text.words text) = some marker)
    (single : marker.spelling ∉ Text.words source) :
    Form.ofWords (Text.words text) = .assignment target marker (Text.words source) := by
  refine Form.ofWords_eq_assignment_iff.mpr ⟨spelled, identifier, nonempty, ?_⟩
  intro other present
  have inText : other.spelling ∈ Text.words text := by
    rw [spelled]
    exact List.mem_cons_of_mem _ (List.mem_cons_of_mem _ present)
  have atLeast := (Marker.firstIn?_eq_some_iff.mp first).2 other inText
  refine Nat.lt_of_le_of_ne atLeast fun sameRank => single ?_
  rw [Marker.rank_injective sameRank]
  exact present

/-- **An assignment goes on where its source ends.** If the source fails, the
assignment fails with the same error and leaves the same table. If the source has
a value, the assignment ends as the rules say, from the table that the source
leaves, and in no other way. -/
theorem runOn_evaluate_assignment (target source : String) (marker : Marker) (table : Table)
    (identifier : isIdentifier target.toList = true) (nonempty : Text.words source ≠ [])
    (first : Marker.firstIn? (Text.words (target ++ " " ++ marker.spelling ++ " " ++ source)) =
      some marker)
    (single : marker.spelling ∉ Text.words source) :
    (∀ error left, (evaluate source).runOn table = (.error error, left) →
      (evaluate (target ++ " " ++ marker.spelling ++ " " ++ source)).runOn table =
        (.error error, left)) ∧
    ∀ value left, (evaluate source).runOn table = (.ok value, left) →
      ∀ outcome, (evaluate (target ++ " " ++ marker.spelling ++ " " ++ source)).runOn table =
        outcome ↔ Completes target value left marker outcome := by
  have assigns := form_of_first identifier nonempty (words_assignment identifier) first single
  rw [evaluate_of_form assigns]
  constructor
  · intro error left fails
    exact EvalM.runOn_bind_of_error fails
  · intro value left evaluated outcome
    rw [EvalM.runOn_bind_of_ok evaluated]
    have completes := completes_complete target marker value left
    constructor
    · rintro rfl
      exact completes
    · exact completes.unique

/-- The source changes the target, assigns another variable, and comes to zero. -/
theorem runOn_evaluate_assignment_of_zero :
    ∃ table left : Table,
      isIdentifier "x".toList = true ∧ Text.words "y = x-- - 1" ≠ [] ∧
      Marker.firstIn? (Text.words "x /= y = x-- - 1") = some (.compound .divide) ∧
      (Marker.compound .divide).spelling ∉ Text.words "y = x-- - 1" ∧
      (evaluate "y = x-- - 1").runOn table = (.ok .zero, left) ∧
      (evaluate "x /= y = x-- - 1").runOn table = (.error (.divisionByZero "/"), left) ∧
      table.get? "x" = some .one ∧ left.get? "x" = some .zero ∧ left.get? "y" = some .zero := by
  let table : Table := (∅ : Table).set "x" .one
  let left : Table := (table.set "x" .zero).set "y" .zero
  have nonempty : Text.words "y = x-- - 1" ≠ [] := by decide +kernel
  have first : Marker.firstIn? (Text.words "x /= y = x-- - 1") = some (.compound .divide) := by
    decide +kernel
  have single : (Marker.compound .divide).spelling ∉ Text.words "y = x-- - 1" := by decide +kernel
  have evaluated : (evaluate "y = x-- - 1").runOn table = (.ok .zero, left) := by decide +kernel
  have bound : left.get? "x" = some .zero := by decide +kernel
  have refuses : Operator.divide.Refuses .zero := ⟨.inl rfl, by decide +kernel⟩
  have fails := (runOn_evaluate_assignment "x" "y = x-- - 1" (.compound .divide) table (by decide)
    nonempty first single).2 .zero left evaluated _ |>.mpr (.refused bound refuses)
  exact ⟨table, left, by decide, nonempty, first, single, evaluated, fails, by decide +kernel,
    bound, by decide +kernel⟩

end Reckoner
