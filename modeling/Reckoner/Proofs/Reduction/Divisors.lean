import Mathlib.Data.Set.Basic
import Mathlib.Order.Nat
import Reckoner.Proofs.Reduction.Chain

/-!
Contract: what the passes over a chain can fail with.

A quotient or a remainder refuses a divisor of zero, and nothing else is
refused. The pass for products takes every divisor from the chain as it was
written, and the pass for sums meets no divisor. Main statement: so a chain fails
at the first refusal that stands in it, whatever numbers arise on the way.

Owns: refused divisors, and when each pass and the whole chain fail.

Does not own: the reading of chains from tokens, or values.
-/

namespace Reckoner

/-! ### Divisors -/

/-- The operator divides, and the divisor is a zero of either sign. -/
def Operator.Refuses (operator : Operator) (divisor : Binary64) : Prop :=
  (operator = .divide ∨ operator = .remainder) ∧ divisor.isZero = true

namespace Operator

theorem apply_of_refuses {operator : Operator} {divisor : Binary64}
    (refuses : operator.Refuses divisor) (left : Binary64) :
    operator.apply left divisor = .error (.divisionByZero operator.symbol) := by
  obtain ⟨rfl | rfl, zero⟩ := refuses
  · exact if_pos zero
  · exact if_pos zero

theorem exists_apply_eq_ok {operator : Operator} {divisor : Binary64}
    (accepts : ¬ operator.Refuses divisor) (left : Binary64) :
    ∃ value, operator.apply left divisor = .ok value := by
  cases operator with
  | divide =>
      have nonzero : ¬ divisor.isZero = true := fun zero => accepts ⟨.inl rfl, zero⟩
      exact ⟨_, if_neg nonzero⟩
  | remainder =>
      have nonzero : ¬ divisor.isZero = true := fun zero => accepts ⟨.inr rfl, zero⟩
      exact ⟨_, if_neg nonzero⟩
  | multiply | add | subtract => exact ⟨_, rfl⟩

theorem not_refuses_of_additive {operator : Operator} (tier : operator.isMultiplicative = false)
    (divisor : Binary64) : ¬ operator.Refuses divisor := by
  rintro ⟨rfl | rfl, _⟩
  · cases tier
  · cases tier

theorem isMultiplicative_of_refuses {operator : Operator} {divisor : Binary64}
    (refuses : operator.Refuses divisor) : operator.isMultiplicative = true := by
  obtain ⟨rfl | rfl, _⟩ := refuses
  · rfl
  · rfl

end Operator

/-! ### The passes over a chain -/

namespace Chain

/-- The places of the operators that refuse the number behind them. -/
def refusals (pairs : List (Operator × Binary64)) : Set Nat :=
  {place | ∃ pair, pairs[place]? = some pair ∧ pair.1.Refuses pair.2}

private theorem refusals_cons_succ {pair : Operator × Binary64} {rest : List (Operator × Binary64)}
    {place : Nat} : place + 1 ∈ refusals (pair :: rest) ↔ place ∈ refusals rest := Iff.rfl

/-- The pass for products stops at the first refusal, whatever number it has
come to before. -/
theorem products_of_isLeast_refusal {pairs : List (Operator × Binary64)} :
    ∀ {place : Nat} {pair : Operator × Binary64}, IsLeast (refusals pairs) place →
      pairs[place]? = some pair → ∀ first,
        products first pairs = .error (.divisionByZero pair.1.symbol) := by
  induction pairs with
  | nil =>
      intro place pair _ found
      cases found
  | cons head rest inductionHypothesis =>
      obtain ⟨operator, value⟩ := head
      intro place pair least found first
      cases place with
      | zero =>
          cases found
          obtain ⟨pair, found, refuses⟩ := least.1
          cases found
          have tier : operator.isMultiplicative = true :=
            Operator.isMultiplicative_of_refuses refuses
          rw [products_cons_of_multiplicative _ _ _ tier, Operator.apply_of_refuses refuses]
          rfl
      | succ place =>
          have leastOfRest : IsLeast (refusals rest) place := by
            refine ⟨refusals_cons_succ.mp least.1, fun other refused => ?_⟩
            exact Nat.le_of_succ_le_succ (least.2 (refusals_cons_succ.mpr refused))
          have restFails := inductionHypothesis leastOfRest found
          have accepts : ¬ operator.Refuses value := fun refuses =>
            absurd (least.2 ⟨(operator, value), rfl, refuses⟩) (Nat.not_succ_le_zero place)
          cases tier : operator.isMultiplicative with
          | true =>
              obtain ⟨product, applied⟩ := Operator.exists_apply_eq_ok accepts first
              rw [products_cons_of_multiplicative _ _ _ tier, applied]
              exact restFails product
          | false =>
              rw [products_cons_of_additive _ _ _ tier, restFails value]
              rfl

private theorem exists_products_eq_ok {pairs : List (Operator × Binary64)} :
    (∀ pair ∈ pairs, ¬ pair.1.Refuses pair.2) →
      ∀ first, ∃ sums, products first pairs = .ok sums := by
  induction pairs with
  | nil => exact fun _ first => ⟨⟨first, []⟩, rfl⟩
  | cons pair rest inductionHypothesis =>
      obtain ⟨operator, value⟩ := pair
      intro accepted first
      obtain ⟨accepts, restAccepted⟩ := List.forall_mem_cons.mp accepted
      have restSucceeds := inductionHypothesis restAccepted
      cases tier : operator.isMultiplicative with
      | true =>
          obtain ⟨product, applied⟩ := Operator.exists_apply_eq_ok accepts first
          rw [products_cons_of_multiplicative _ _ _ tier, applied]
          exact restSucceeds product
      | false =>
          obtain ⟨sums, taken⟩ := restSucceeds value
          rw [products_cons_of_additive _ _ _ tier, taken]
          exact ⟨_, rfl⟩

/-- The pass for sums meets additive operators only, and so it never fails. -/
theorem exists_total_eq_ok {pairs : List (Operator × Binary64)} :
    (∀ pair ∈ pairs, pair.1.isMultiplicative = false) →
      ∀ first, ∃ value, total first pairs = .ok value := by
  induction pairs with
  | nil => exact fun _ first => ⟨first, rfl⟩
  | cons pair rest inductionHypothesis =>
      intro additive first
      obtain ⟨tier, restAdditive⟩ := List.forall_mem_cons.mp additive
      obtain ⟨subtotal, applied⟩ :=
        Operator.exists_apply_eq_ok (Operator.not_refuses_of_additive tier pair.2) first
      rw [total, applied]
      exact inductionHypothesis restAdditive subtotal

theorem exists_total_products_eq_ok {first : Binary64} {pairs : List (Operator × Binary64)}
    {sums : Chain} (taken : products first pairs = .ok sums) :
    ∃ value, total sums.first sums.rest = .ok value :=
  exists_total_eq_ok (additive_of_products taken) sums.first

theorem value_of_isLeast_refusal {chain : Chain} {place : Nat} {pair : Operator × Binary64}
    (least : IsLeast (refusals chain.rest) place) (found : chain.rest[place]? = some pair) :
    chain.value = .error (.divisionByZero pair.1.symbol) := by
  rw [value, products_of_isLeast_refusal least found]
  rfl

private theorem accepted_of_refusals_eq_empty {pairs : List (Operator × Binary64)}
    (none : refusals pairs = ∅) : ∀ pair ∈ pairs, ¬ pair.1.Refuses pair.2 := by
  intro pair member refuses
  obtain ⟨place, found⟩ := List.mem_iff_getElem?.mp member
  exact Set.eq_empty_iff_forall_notMem.mp none place ⟨pair, found, refuses⟩

theorem exists_value_eq_ok {chain : Chain} (none : refusals chain.rest = ∅) :
    ∃ result, chain.value = .ok result := by
  obtain ⟨sums, taken⟩ := exists_products_eq_ok (accepted_of_refusals_eq_empty none) chain.first
  rw [value, taken]
  exact exists_total_products_eq_ok taken

/-- The chain stops at the first refusal, whatever number its pass for products
begins with. -/
theorem products_eq_error_iff {first : Binary64} {chain : Chain} {error : EvalError} :
    products first chain.rest = .error error ↔ chain.value = .error error := by
  classical
  by_cases refused : (refusals chain.rest).Nonempty
  · have least := refused.isLeast_natFind
    obtain ⟨pair, found, _⟩ := least.1
    rw [products_of_isLeast_refusal least found, value_of_isLeast_refusal least found]
    simp only [Except.error.injEq]
  · rw [Set.not_nonempty_iff_eq_empty] at refused
    obtain ⟨sums, taken⟩ := exists_products_eq_ok (accepted_of_refusals_eq_empty refused) first
    obtain ⟨result, has⟩ := exists_value_eq_ok refused
    rw [taken, has]
    exact iff_of_false (fun impossible => nomatch impossible) fun impossible => nomatch impossible

end Chain

end Reckoner
