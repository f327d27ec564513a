import Mathlib.Control.Monad.Basic
import Reckoner.Evaluation.Lemmas

/-!
Contract: what a successful sequence says of its parts.

Owns: the law for results and the law for computations on a table, each of
which takes a success apart or puts one together, and sequences that begin
with a result.

Does not own: what failing sequences leave behind.
-/

namespace Reckoner

variable {α β : Type}

theorem bind_eq_ok_iff {result : Except EvalError α} {next : α → Except EvalError β}
    {value : β} :
    (result >>= next) = .ok value ↔
      ∃ middle, result = .ok middle ∧ next middle = .ok value := by
  cases result with
  | error error => simp [bind, Except.bind]
  | ok middle => simp [bind, Except.bind]

/-- Two results and what is made of them. -/
theorem bind_bind_eq_ok_iff {γ : Type} {left : Except EvalError α} {right : Except EvalError β}
    {combine : α → β → Except EvalError γ} {value : γ} :
    (left >>= fun first => right >>= combine first) = .ok value ↔
      ∃ first second, left = .ok first ∧ right = .ok second ∧
        combine first second = .ok value := by
  simp only [bind_eq_ok_iff]
  constructor
  · rintro ⟨first, leftHas, second, rightHas, combined⟩
    exact ⟨first, second, leftHas, rightHas, combined⟩
  · rintro ⟨first, second, leftHas, rightHas, combined⟩
    exact ⟨first, leftHas, second, rightHas, combined⟩

namespace EvalM

theorem ext {first second : EvalM α}
    (agree : ∀ table, first.runOn table = second.runOn table) : first = second :=
  funext agree

theorem ofExcept_ok_bind (value : α) (next : α → EvalM β) :
    (ofExcept (.ok value) >>= next) = next value := rfl

theorem ofExcept_error_bind (error : EvalError) (next : α → EvalM β) :
    (ofExcept (.error error) >>= next) = throw error := rfl

theorem runOn_bind_eq_ok_iff {first : EvalM α} {next : α → EvalM β} {table left : Table}
    {value : β} :
    (first >>= next).runOn table = (.ok value, left) ↔
      ∃ middle between, first.runOn table = (.ok middle, between) ∧
        (next middle).runOn between = (.ok value, left) := by
  rw [runOn_bind]
  obtain ⟨outcome, between⟩ := first.runOn table
  cases outcome with
  | error error => simp
  | ok middle =>
      constructor
      · intro succeeds
        exact ⟨middle, between, rfl, succeeds⟩
      · rintro ⟨_, _, same, succeeds⟩
        cases same
        exact succeeds

end EvalM

end Reckoner
