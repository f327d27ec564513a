import Reckoner.Evaluation
import Reckoner.Table.Lemmas

/-!
Contract: the laws of evaluation, seen through `EvalM.runOn`.

Every computation of this library is built from results, look-ups, bindings
and sequencing. One equation for each says what it makes of a table.

Owns: these equations, and those of tokens and assignments.

Does not own: the definitions.
-/

namespace Reckoner

variable {α β : Type}

namespace EvalM

@[simp] theorem runOn_pure (value : α) (table : Table) :
    (pure value : EvalM α).runOn table = (.ok value, table) := rfl

@[simp] theorem runOn_throw (error : EvalError) (table : Table) :
    (throw error : EvalM α).runOn table = (.error error, table) := rfl

@[simp] theorem runOn_ofExcept (result : Except EvalError α) (table : Table) :
    (ofExcept result).runOn table = (result, table) := rfl

/-- A computation that fails keeps its table and skips what follows. -/
theorem runOn_bind (first : EvalM α) (next : α → EvalM β) (table : Table) :
    (first >>= next).runOn table =
      match first.runOn table with
      | (.ok value, left) => (next value).runOn left
      | (.error error, left) => (.error error, left) := by
  simp only [runOn, ExceptT.run, StateT.run, bind, ExceptT.bind, ExceptT.mk, StateT.bind]
  generalize first table = outcome
  obtain ⟨result, left⟩ := outcome
  cases result with
  | ok value => rfl
  | error error => rfl

theorem runOn_bind_of_ok {first : EvalM α} {next : α → EvalM β} {table left : Table}
    {value : α} (succeeds : first.runOn table = (.ok value, left)) :
    (first >>= next).runOn table = (next value).runOn left := by
  rw [runOn_bind, succeeds]

theorem runOn_bind_of_error {first : EvalM α} {next : α → EvalM β} {table left : Table}
    {error : EvalError} (fails : first.runOn table = (.error error, left)) :
    (first >>= next).runOn table = (.error error, left) := by
  rw [runOn_bind, fails]

end EvalM

/-! ### Look-up and binding -/

theorem runOn_lookUp (name : String) (column : Option Int) (table : Table) :
    (lookUp name column).runOn table =
      match table.get? name with
      | some value => (.ok value, table)
      | none => (.error (.undefinedVariable name column), table) := by
  have started : (get : EvalM Table).runOn table = (.ok table, table) := rfl
  rw [lookUp, EvalM.runOn_bind_of_ok started]
  cases table.get? name with
  | some value => rfl
  | none => rfl

theorem runOn_lookUp_eq_ok_iff {name : String} {column : Option Int} {table left : Table}
    {value : Binary64} :
    (lookUp name column).runOn table = (.ok value, left) ↔
      table.get? name = some value ∧ left = table := by
  rw [runOn_lookUp]
  cases table.get? name with
  | none => simp
  | some bound => simp [eq_comm]

@[simp] theorem runOn_assign (name : String) (value : Binary64) (table : Table) :
    (assign name value).runOn table = (.ok (), table.set name value) := rfl

/-! ### Statements -/

/-- An assignment evaluates its source first, and binds its target last. -/
theorem Statement.runOn_execute_assignment (target : String) (marker : Marker)
    (source : Statement) (table : Table) :
    (Statement.assignment target marker source).execute.runOn table =
      match source.execute.runOn table with
      | (.error error, left) => (.error error, left)
      | (.ok value, left) =>
          match (marker.combine target value).runOn left with
          | (.error error, unchanged) => (.error error, unchanged)
          | (.ok result, unchanged) => (.ok result, unchanged.set target result) := by
  rw [Statement.execute, EvalM.runOn_bind]
  obtain ⟨outcome, left⟩ := source.execute.runOn table
  cases outcome with
  | error error => rfl
  | ok value =>
      dsimp only
      rw [EvalM.runOn_bind]
      obtain ⟨combined, unchanged⟩ := (marker.combine target value).runOn left
      cases combined with
      | error error => rfl
      | ok result => rfl

/-- A text that is no statement leaves the table as it was. -/
theorem runOn_evaluate (text : String) (table : Table) :
    (evaluate text).runOn table =
      match Statement.ofText text with
      | .error error => (.error error, table)
      | .ok statement => statement.execute.runOn table := by
  rw [evaluate, EvalM.runOn_bind, EvalM.runOn_ofExcept]
  cases Statement.ofText text with
  | error error => rfl
  | ok statement => rfl

/-! ### Several texts -/

theorem evaluateAll_cons (text : String) (rest : List String) :
    evaluateAll (text :: rest) =
      if (Text.trim text).isEmpty then evaluateAll rest
      else evaluate (Text.trim text) >>= fun _ => evaluateAll rest := by
  rw [evaluateAll]
  cases (Text.trim text).isEmpty <;> rfl

end Reckoner
