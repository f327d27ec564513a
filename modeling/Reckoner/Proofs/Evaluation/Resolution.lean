import Reckoner.Proofs.Grammar.Tree

/-!
Contract: what resolving does to the operands of an expression.

An operand is a number, a variable or a step. Each operand token becomes the
number that its operand yields, and every other token stays as it is, so
resolved tokens can be cut wherever the tokens can.

Owns: operands with what they yield and change, and the successful runs of
`resolveAll`, token by token and part by part.

Does not own: what the resolved tokens are worth.
-/

namespace Reckoner

/-- An operand of an expression. -/
inductive Operand where
  | number (value : Binary64)
  | variable (name : String) (column : Int)
  | step (name : String) (direction : Step) (placement : Placement) (column : Int)
deriving DecidableEq

namespace Operand

def ofToken? (token : Token) : Option Operand :=
  match token.lexeme with
  | .number value => some (.number value)
  | .identifier name => some (.variable name token.column)
  | .step name direction placement => some (.step name direction placement token.column)
  | _ => none

/-- What an operand yields, with its effect on the table. A step yields the new
value of its variable where its sign comes first, and otherwise the old one. -/
def visit : Operand → EvalM Binary64
  | .number value => return value
  | .variable name column => lookUp name column
  | .step name direction placement column => do
      let old ← lookUp name column
      assign name (direction.apply old)
      match placement with
      | .before => return direction.apply old
      | .after => return old

end Operand

/-! ### Resolving tokens -/

theorem Token.resolve_of_operand {token : Token} {operand : Operand}
    (reads : Operand.ofToken? token = some operand) :
    token.resolve = operand.visit >>= fun value => pure ⟨.number value, token.column⟩ := by
  obtain ⟨lexeme, column⟩ := token
  cases lexeme with
  | number value =>
      cases reads
      rfl
  | identifier name =>
      cases reads
      rfl
  | step name direction placement =>
      cases reads
      cases placement <;> simp [Token.resolve, Operand.visit]
  | _ => cases reads

private theorem Token.resolve_of_no_operand {token : Token}
    (reads : Operand.ofToken? token = none) :
    token.resolve = pure token := by
  obtain ⟨lexeme, column⟩ := token
  cases lexeme <;> first | rfl | cases reads

/-- A token is resolved to itself unless it is an operand. -/
theorem Token.resolve_eq_ok_iff {token resolved : Token} {table left : Table} :
    token.resolve.runOn table = (.ok resolved, left) ↔
      (Operand.ofToken? token = none ∧ resolved = token ∧ left = table) ∨
        ∃ operand value, Operand.ofToken? token = some operand ∧
          operand.visit.runOn table = (.ok value, left) ∧
            resolved = ⟨.number value, token.column⟩ := by
  cases reads : Operand.ofToken? token with
  | none =>
      rw [Token.resolve_of_no_operand reads]
      simp [eq_comm]
  | some operand =>
      rw [Token.resolve_of_operand reads, EvalM.runOn_bind_eq_ok_iff]
      simp [eq_comm]

theorem runOn_resolveAll_cons_eq_ok_iff {token : Token} {rest resolved : List Token}
    {table left : Table} :
    (resolveAll (token :: rest)).runOn table = (.ok resolved, left) ↔
      ∃ first remaining between, token.resolve.runOn table = (.ok first, between) ∧
        (resolveAll rest).runOn between = (.ok remaining, left) ∧
          resolved = first :: remaining := by
  rw [resolveAll, EvalM.runOn_bind_eq_ok_iff]
  constructor
  · rintro ⟨first, between, resolvedFirst, resolvedRest⟩
    obtain ⟨remaining, after, resolvedRemaining, same⟩ :=
      EvalM.runOn_bind_eq_ok_iff.mp resolvedRest
    cases same
    exact ⟨first, remaining, between, resolvedFirst, resolvedRemaining, rfl⟩
  · rintro ⟨first, remaining, between, resolvedFirst, resolvedRemaining, rfl⟩
    exact ⟨first, between, resolvedFirst,
      EvalM.runOn_bind_eq_ok_iff.mpr ⟨remaining, left, resolvedRemaining, rfl⟩⟩

theorem nothing_of_runOn_resolveAll {tokens : List Token} {table left : Table}
    (ran : (resolveAll tokens).runOn table = (.ok [], left)) : tokens = [] ∧ table = left := by
  cases tokens with
  | nil =>
      cases ran
      exact ⟨rfl, rfl⟩
  | cons token rest =>
      obtain ⟨_, _, _, _, _, impossible⟩ := runOn_resolveAll_cons_eq_ok_iff.mp ran
      cases impossible

theorem runOn_resolveAll_append {before after resolvedBefore resolvedAfter : List Token}
    {between left : Table}
    (afterRan : (resolveAll after).runOn between = (.ok resolvedAfter, left)) :
    ∀ {table : Table}, (resolveAll before).runOn table = (.ok resolvedBefore, between) →
      (resolveAll (before ++ after)).runOn table =
        (.ok (resolvedBefore ++ resolvedAfter), left) := by
  induction before generalizing resolvedBefore with
  | nil =>
      intro table beforeRan
      cases beforeRan
      exact afterRan
  | cons token rest inductionHypothesis =>
      intro table beforeRan
      obtain ⟨first, remaining, middle, resolvedFirst, restRan, rfl⟩ :=
        runOn_resolveAll_cons_eq_ok_iff.mp beforeRan
      exact runOn_resolveAll_cons_eq_ok_iff.mpr
        ⟨first, _, middle, resolvedFirst, inductionHypothesis restRan, rfl⟩

/-- Resolved tokens can be cut where the tokens are cut. -/
theorem split_of_runOn_resolveAll {resolvedBefore resolvedAfter : List Token} {left : Table} :
    ∀ {tokens : List Token} {table : Table},
      (resolveAll tokens).runOn table = (.ok (resolvedBefore ++ resolvedAfter), left) →
        ∃ before after between, tokens = before ++ after ∧
          (resolveAll before).runOn table = (.ok resolvedBefore, between) ∧
            (resolveAll after).runOn between = (.ok resolvedAfter, left) := by
  induction resolvedBefore with
  | nil => exact fun {tokens table} ran => ⟨[], tokens, table, rfl, rfl, ran⟩
  | cons first remaining inductionHypothesis =>
      intro tokens table ran
      cases tokens with
      | nil => cases ran
      | cons token rest =>
          obtain ⟨resolved, _, middle, resolvedFirst, restRan, same⟩ :=
            runOn_resolveAll_cons_eq_ok_iff.mp ran
          injection same with sameFirst sameRest
          subst sameFirst
          rw [← sameRest] at restRan
          obtain ⟨before, after, between, rfl, beforeRan, afterRan⟩ := inductionHypothesis restRan
          exact ⟨token :: before, after, between, rfl,
            runOn_resolveAll_cons_eq_ok_iff.mpr
              ⟨first, remaining, middle, resolvedFirst, beforeRan, rfl⟩, afterRan⟩

/-! ### Operands and the other tokens -/

theorem Operand.ofToken?_of_number? {token : Token} {value : Binary64}
    (reads : token.number? = some value) : ofToken? token = some (.number value) := by
  unfold Token.number? at reads
  split at reads
  · rename_i number same
    cases reads
    simp only [ofToken?, same]
  · cases reads

theorem Operand.ofToken?_of_opens {token : Token} (opens : token.Opens) :
    ofToken? token = none := by
  obtain ⟨spelling, same⟩ := opens
  simp only [ofToken?, same]

theorem Operand.ofToken?_of_closes {token : Token} (closes : token.Closes) :
    ofToken? token = none := by
  obtain ⟨spelling, same⟩ := closes
  simp only [ofToken?, same]

theorem Operand.ofToken?_of_names {token : Token} {operator : Operator}
    (names : token.Names operator) : ofToken? token = none := by
  simp only [ofToken?, show token.lexeme = _ from names]

theorem runOn_resolveAll_keep {token : Token} (reads : Operand.ofToken? token = none)
    {rest resolved : List Token} {table left : Table}
    (restRan : (resolveAll rest).runOn table = (.ok resolved, left)) :
    (resolveAll (token :: rest)).runOn table = (.ok (token :: resolved), left) :=
  runOn_resolveAll_cons_eq_ok_iff.mpr ⟨token, resolved, table,
    Token.resolve_eq_ok_iff.mpr (.inl ⟨reads, rfl, rfl⟩), restRan, rfl⟩

/-- A resolved token that is no number was there before. -/
theorem kept_of_runOn_resolveAll {kept : Token} (noNumber : kept.number? = none)
    {tokens resolved : List Token} {table left : Table}
    (ran : (resolveAll tokens).runOn table = (.ok (kept :: resolved), left)) :
    ∃ rest, tokens = kept :: rest ∧ (resolveAll rest).runOn table = (.ok resolved, left) := by
  cases tokens with
  | nil => cases ran
  | cons token rest =>
      obtain ⟨first, remaining, between, firstRan, restRan, same⟩ :=
        runOn_resolveAll_cons_eq_ok_iff.mp ran
      injection same with sameFirst sameRest
      subst sameFirst sameRest
      rcases Token.resolve_eq_ok_iff.mp firstRan with ⟨_, rfl, rfl⟩ | ⟨_, value, _, _, rfl⟩
      · exact ⟨rest, rfl, restRan⟩
      · cases noNumber

theorem runOn_resolveAll_link {link : Token} {operator : Operator}
    (names : link.Names operator) {before after resolvedBefore resolvedAfter : List Token}
    {table between left : Table}
    (beforeRan : (resolveAll before).runOn table = (.ok resolvedBefore, between))
    (afterRan : (resolveAll after).runOn between = (.ok resolvedAfter, left)) :
    (resolveAll (before ++ link :: after)).runOn table =
      (.ok (resolvedBefore ++ link :: resolvedAfter), left) :=
  runOn_resolveAll_append
    (runOn_resolveAll_keep (Operand.ofToken?_of_names names) afterRan) beforeRan

/-- Resolved tokens can be cut at their operators. -/
theorem split_at_link {link : Token} {operator : Operator} (names : link.Names operator)
    {tokens resolvedBefore resolvedAfter : List Token} {table left : Table}
    (ran : (resolveAll tokens).runOn table =
      (.ok (resolvedBefore ++ link :: resolvedAfter), left)) :
    ∃ before after between, tokens = before ++ link :: after ∧
      (resolveAll before).runOn table = (.ok resolvedBefore, between) ∧
        (resolveAll after).runOn between = (.ok resolvedAfter, left) := by
  obtain ⟨before, rest, between, rfl, beforeRan, restRan⟩ := split_of_runOn_resolveAll ran
  obtain ⟨after, rfl, afterRan⟩ :=
    kept_of_runOn_resolveAll (Token.number?_of_names names) restRan
  exact ⟨before, after, between, rfl, beforeRan, afterRan⟩

end Reckoner
