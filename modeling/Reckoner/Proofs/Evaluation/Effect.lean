import Reckoner.Proofs.Evaluation.Failure
import Reckoner.Proofs.Evaluation.Resolution
import Reckoner.Proofs.Assignment.Form
import Reckoner.Proofs.Table.Views
import Reckoner.Proofs.Token.Mention

/-!
Contract: what an expression does to the table, whether or not it has a value.

The tokens are resolved from left to right up to the first whose variable is
not bound. Each step before it has changed its variable, nothing else has been
changed, and nothing is taken back: not where a token fails, and not where the
resolved tokens have no value.

Owns: the value of a variable after steps, and the table and the look-up error
of every run over tokens.

Does not own: the value of the resolved tokens, or assignments.
-/

namespace Reckoner

/-- The amounts that the steps of a variable add to it, in their order. -/
def amounts (name : String) (tokens : List Token) : List Binary64 :=
  tokens.filterMap fun token => token.lexeme.amountFor? name

/-- A value after the steps of its variable, one addition after the other. -/
def stepped (name : String) (tokens : List Token) (value : Binary64) : Binary64 :=
  (amounts name tokens).foldl Binary64.add value

theorem stepped_nil (name : String) : stepped name [] = id := rfl

theorem stepped_append (name : String) (before after : List Token) (value : Binary64) :
    stepped name (before ++ after) value = stepped name after (stepped name before value) := by
  rw [stepped, amounts, List.filterMap_append, List.foldl_append]
  rfl

private theorem stepped_of_unchanged {token : Token} (keeps : token.lexeme.changed? = none)
    (name : String) : stepped name [token] = id := by
  funext value
  have noAmount := Lexeme.amountFor?_of_changed?_eq_none keeps name
  simp [stepped, amounts, noAmount]

namespace Table

/-- The second table is the first after the steps among the tokens. -/
def SteppedBy (tokens : List Token) (before after : Table) : Prop :=
  ∀ name, after.get? name = (before.get? name).map (stepped name tokens)

/-- Whether the table has what a token asks for. -/
def binds (table : Table) (token : Token) : Bool :=
  token.lexeme.name?.all table.contains

namespace SteppedBy

variable {tokens : List Token} {first second third : Table}

theorem refl {token : Token} (keeps : token.lexeme.changed? = none) (table : Table) :
    SteppedBy [token] table table := by
  intro name
  rw [stepped_of_unchanged keeps, Option.map_id_apply]

theorem nil (table : Table) : SteppedBy [] table table := by
  intro name
  rw [stepped_nil, Option.map_id_apply]

theorem append {later : List Token} (before : SteppedBy tokens first second)
    (after : SteppedBy later second third) : SteppedBy (tokens ++ later) first third := by
  intro name
  rw [after name, before name, Option.map_map]
  exact congrFun (congrArg Option.map (funext fun value => (stepped_append ..).symm)) _

/-- A step changes its own variable and no other. -/
theorem set {token : Token} {name : String} {direction : Step} {placement : Placement}
    {old : Binary64} (isStep : token.lexeme = .step name direction placement)
    (bound : first.get? name = some old) :
    SteppedBy [token] first (first.set name (direction.apply old)) := by
  intro other
  rw [get?_set]
  by_cases same : other = name
  · subst same
    rw [if_pos rfl, bound, direction.apply_eq_add_amount]
    simp [stepped, amounts, isStep, Lexeme.amountFor?]
  · have different : ¬ name = other := fun equal => same equal.symm
    have unchanged : stepped other [token] = id := by
      funext value
      simp [stepped, amounts, isStep, Lexeme.amountFor?, different]
    rw [if_neg same, unchanged, Option.map_id_apply]

theorem contains_eq (steps : SteppedBy tokens first second) (name : String) :
    second.contains name = first.contains name := by
  rw [contains, steps name, Option.isSome_map, contains]

theorem binds_eq (steps : SteppedBy tokens first second) (token : Token) :
    second.binds token = first.binds token := by
  have same : second.contains = first.contains := funext steps.contains_eq
  rw [binds, same, binds]

end SteppedBy

end Table

/-! ### A single token -/

/-- A token whose variable is bound is resolved, and does what its step does. -/
theorem Token.runOn_resolve_of_binds {token : Token} {table : Table}
    (binds : table.binds token = true) :
    ∃ resolved left, token.resolve.runOn table = (.ok resolved, left) ∧
      table.SteppedBy [token] left := by
  obtain ⟨lexeme, column⟩ := token
  cases lexeme with
  | identifier name =>
      obtain ⟨value, bound⟩ := Table.contains_iff.mp binds
      have found : (lookUp name column).runOn table = (.ok value, table) := by
        rw [runOn_lookUp, bound]
      exact ⟨_, table, EvalM.runOn_bind_of_ok found, .refl rfl table⟩
  | step name direction placement =>
      obtain ⟨old, bound⟩ := Table.contains_iff.mp binds
      have found : (lookUp name column).runOn table = (.ok old, table) := by
        rw [runOn_lookUp, bound]
      have steps : table.SteppedBy [⟨.step name direction placement, column⟩] _ :=
        .set rfl bound
      cases placement with
      | before => exact ⟨_, _, EvalM.runOn_bind_of_ok found, steps⟩
      | after => exact ⟨_, _, EvalM.runOn_bind_of_ok found, steps⟩
  | _ => exact ⟨_, table, rfl, .refl rfl table⟩

/-- A token whose variable is not bound fails and leaves the table as it was. -/
theorem Token.runOn_resolve_of_not_binds {token : Token} {table : Table}
    (missing : table.binds token = false) :
    ∃ name, token.lexeme.name? = some name ∧
      token.resolve.runOn table =
        (.error (.undefinedVariable name (some token.column)), table) := by
  obtain ⟨lexeme, column⟩ := token
  have notFound {name : String} (absent : table.contains name = false) :
      (lookUp name column).runOn table =
        (.error (.undefinedVariable name (some column)), table) := by
    rw [runOn_lookUp, Table.get?_eq_none_iff.mpr absent]
  cases lexeme with
  | identifier name => exact ⟨name, rfl, EvalM.runOn_bind_of_error (notFound missing)⟩
  | step name direction placement =>
      exact ⟨name, rfl, EvalM.runOn_bind_of_error (notFound missing)⟩
  | _ => cases missing

/-! ### All tokens -/

theorem resolveAll_append (before after : List Token) :
    resolveAll (before ++ after) =
      resolveAll before >>= fun first => resolveAll after >>= fun second =>
        pure (first ++ second) := by
  induction before with
  | nil => simp [resolveAll]
  | cons token rest inductionHypothesis => simp [resolveAll, inductionHypothesis]

private theorem runOn_resolveAll_of_binds {tokens : List Token} :
    ∀ {table : Table}, (∀ token ∈ tokens, table.binds token = true) →
      ∃ resolved left, (resolveAll tokens).runOn table = (.ok resolved, left) ∧
        table.SteppedBy tokens left := by
  induction tokens with
  | nil => exact fun {table} _ => ⟨[], table, rfl, .nil table⟩
  | cons token rest inductionHypothesis =>
      intro table bound
      obtain ⟨first, between, resolvedFirst, step⟩ :=
        Token.runOn_resolve_of_binds (bound token List.mem_cons_self)
      have stillBound (other : Token) (isLater : other ∈ rest) : between.binds other = true := by
        rw [step.binds_eq]
        exact bound other (List.mem_cons_of_mem token isLater)
      obtain ⟨remaining, left, resolvedRest, steps⟩ := inductionHypothesis stillBound
      exact ⟨first :: remaining, left,
        runOn_resolveAll_cons_eq_ok_iff.mpr
          ⟨first, remaining, between, resolvedFirst, resolvedRest, rfl⟩,
        step.append steps⟩

/-- The first token whose variable is not bound ends the run. What the tokens
before it have done stays done. -/
theorem runOn_resolveAll_of_not_binds {before : List Token} {token : Token} {table : Table}
    (bound : ∀ earlier ∈ before, table.binds earlier = true)
    (missing : table.binds token = false) (rest : List Token) :
    ∃ name left, token.lexeme.name? = some name ∧
      (resolveAll (before ++ token :: rest)).runOn table =
        (.error (.undefinedVariable name (some token.column)), left) ∧
      table.SteppedBy before left := by
  obtain ⟨resolved, left, resolvedBefore, steps⟩ := runOn_resolveAll_of_binds bound
  have stillMissing : left.binds token = false := by rw [steps.binds_eq, missing]
  obtain ⟨name, asks, fails⟩ := Token.runOn_resolve_of_not_binds stillMissing
  have restFails : (resolveAll (token :: rest)).runOn left =
      (.error (.undefinedVariable name (some token.column)), left) :=
    EvalM.runOn_bind_of_error fails
  refine ⟨name, left, asks, ?_, steps⟩
  rw [resolveAll_append, EvalM.runOn_bind_of_ok resolvedBefore]
  exact EvalM.runOn_bind_of_error restFails

/-- The number of tokens before the first whose variable is not bound. -/
def Table.reach (table : Table) (tokens : List Token) : Nat :=
  tokens.findIdx fun token => !table.binds token

private theorem Table.binds_of_mem_take_reach (table : Table) (tokens : List Token) :
    ∀ token ∈ tokens.take (table.reach tokens), table.binds token = true := by
  intro token isEarlier
  obtain ⟨place, inside, rfl⟩ := List.mem_iff_getElem.mp isEarlier
  rw [List.length_take] at inside
  have before : place < table.reach tokens := by omega
  rw [List.getElem_take]
  simpa using List.not_of_lt_findIdx before

private theorem Table.not_binds_reach {table : Table} {tokens : List Token}
    (inside : table.reach tokens < tokens.length) :
    table.binds tokens[table.reach tokens] = false := by
  have found := List.findIdx_of_getElem?_eq_some (List.getElem?_eq_getElem inside)
  simpa using found

/-! ### Words and texts -/

theorem Token.column_getElem_ofWords {words : List String} {place : Nat}
    (inside : place < (Token.ofWords words).length) :
    (Token.ofWords words)[place].column = place + 1 := by
  simp [Token.ofWords]
  omega

section Words

variable (words : List String) {table : Table}

/-- Words whose variables are all bound have the value of their resolved tokens. -/
theorem runOn_evaluateWords_of_bound
    (atEnd : table.reach (Token.ofWords words) = (Token.ofWords words).length) :
    ∃ resolved left, (resolveAll (Token.ofWords words)).runOn table = (.ok resolved, left) ∧
      (evaluateWords words).runOn table = (valueOfTokens resolved, left) ∧
      table.SteppedBy ((Token.ofWords words).take (table.reach (Token.ofWords words))) left := by
  have bound := table.binds_of_mem_take_reach (Token.ofWords words)
  rw [atEnd, List.take_length] at bound ⊢
  obtain ⟨resolved, left, succeeds, steps⟩ := runOn_resolveAll_of_binds bound
  exact ⟨resolved, left, succeeds, EvalM.runOn_bind_of_ok succeeds, steps⟩

/-- Words with an unbound variable fail at the first one. -/
theorem runOn_evaluateWords_of_unbound
    (inside : table.reach (Token.ofWords words) < (Token.ofWords words).length) :
    ∃ name left,
      (Token.ofWords words)[table.reach (Token.ofWords words)].lexeme.name? = some name ∧
      (evaluateWords words).runOn table =
        (.error (.undefinedVariable name (some (table.reach (Token.ofWords words) + 1))), left) ∧
      table.SteppedBy ((Token.ofWords words).take (table.reach (Token.ofWords words))) left := by
  obtain ⟨name, left, asks, fails, steps⟩ :=
    runOn_resolveAll_of_not_binds (table.binds_of_mem_take_reach _) (Table.not_binds_reach inside)
      ((Token.ofWords words).drop (table.reach (Token.ofWords words) + 1))
  rw [← List.drop_eq_getElem_cons inside, List.take_append_drop,
    Token.column_getElem_ofWords inside] at fails
  exact ⟨name, left, asks, EvalM.runOn_bind_of_error fails, steps⟩

/-- The words of an expression leave the table with the steps before its first
unbound variable. -/
theorem steppedBy_runOn_evaluateWords (table : Table) :
    table.SteppedBy ((Token.ofWords words).take (table.reach (Token.ofWords words)))
      ((evaluateWords words).runOn table).2 := by
  by_cases inside : table.reach (Token.ofWords words) < (Token.ofWords words).length
  · obtain ⟨_, left, _, ran, steps⟩ := runOn_evaluateWords_of_unbound words inside
    rw [ran]
    exact steps
  · have atEnd : table.reach (Token.ofWords words) = (Token.ofWords words).length :=
      Nat.le_antisymm List.findIdx_le_length (Nat.le_of_not_lt inside)
    obtain ⟨_, left, _, ran, steps⟩ := runOn_evaluateWords_of_bound words atEnd
    rw [ran]
    exact steps

end Words

/-- A value that cannot be computed is no unbound variable. -/
theorem valueOfTokens_ne_undefinedVariable (tokens : List Token) (name : String)
    (column : Option Int) : valueOfTokens tokens ≠ .error (.undefinedVariable name column) := by
  intro fails
  have listed : ErrorKind.undefinedVariable ∈ groupingKinds :=
    valueOfTokens_failsOnly tokens _ fails
  exact absurd listed (by decide)

/-- **Steps stay done, up to the first unbound variable.** A text without
assignment markers leaves the names of the table, and each value with the
amounts of its steps before that variable added one after the other. It fails
to find a variable exactly if there is an unbound one, and then the first;
otherwise the table does not depend on whether the resolved tokens have a value. -/
theorem runOn_evaluate_effect (text : String) (table : Table)
    (unmarked : ∀ marker : Marker, marker.spelling ∉ Text.words text) :
    let tokens := Token.ofText (Text.normalize text)
    let reach := table.reach tokens
    ∃ outcome left, (evaluate text).runOn table = (outcome, left) ∧
      left.names = table.names ∧
      (∀ name, left.get? name = (table.get? name).map (stepped name (tokens.take reach))) ∧
      ((∃ name column, outcome = .error (.undefinedVariable name column)) ↔
        reach < tokens.length) ∧
      (∀ token, tokens[reach]? = some token → ∃ name, token.lexeme.name? = some name ∧
        outcome = .error (.undefinedVariable name (some (reach + 1)))) ∧
      (reach = tokens.length → ∃ resolved,
        (resolveAll tokens).runOn table = (.ok resolved, left) ∧
          outcome = valueOfTokens resolved) := by
  have sameTokens : Token.ofText (Text.normalize text) = Token.ofWords (Text.words text) := rfl
  rw [evaluate_of_unmarked unmarked, sameTokens]
  intro tokens reach
  have steps : table.SteppedBy (tokens.take reach) _ :=
    steppedBy_runOn_evaluateWords (Text.words text) table
  generalize run : (evaluateWords (Text.words text)).runOn table = result at steps
  obtain ⟨outcome, left⟩ := result
  refine ⟨outcome, left, rfl, Table.names_eq_of_contains steps.contains_eq, steps, ?_⟩
  by_cases inside : reach < tokens.length
  · obtain ⟨name, _, asks, ran, _⟩ := runOn_evaluateWords_of_unbound (Text.words text) inside
    rw [run] at ran
    cases ran
    refine ⟨⟨fun _ => inside, fun _ => ⟨name, _, rfl⟩⟩, ?_, ?_⟩
    · intro token isToken
      rw [List.getElem?_eq_getElem inside, Option.some.injEq] at isToken
      subst isToken
      exact ⟨name, asks, rfl⟩
    · intro atEnd
      omega
  · have atEnd : reach = tokens.length :=
      Nat.le_antisymm List.findIdx_le_length (Nat.le_of_not_lt inside)
    obtain ⟨resolved, _, succeeds, ran, _⟩ :=
      runOn_evaluateWords_of_bound (Text.words text) atEnd
    rw [run] at ran
    cases ran
    refine ⟨⟨?_, fun below => absurd below inside⟩, ?_, fun _ => ⟨resolved, succeeds, rfl⟩⟩
    · rintro ⟨name, column, fails⟩
      exact absurd fails (valueOfTokens_ne_undefinedVariable resolved name column)
    · intro token isToken
      rw [List.getElem?_eq_none (by omega)] at isToken
      cases isToken

theorem runOn_evaluate_effect_before_unbound :
    (∀ marker : Marker, marker.spelling ∉ Text.words "x++ ) ++x / 0 + y-- * x++") ∧
      ∃ left, (evaluate "x++ ) ++x / 0 + y-- * x++").runOn ((∅ : Table).set "x" (.ofNat 5)) =
          (.error (.undefinedVariable "y" (some 7)), left) ∧
        left.names = ["x"] ∧ left.get? "x" = some (.ofNat 7) := by
  have unmarked : ∀ marker : Marker, marker.spelling ∉ Text.words "x++ ) ++x / 0 + y-- * x++" :=
    Marker.firstIn?_eq_none_iff.mp (by decide)
  obtain ⟨outcome, left, ran, names, values, _, unbound, _⟩ :=
    runOn_evaluate_effect _ ((∅ : Table).set "x" (.ofNat 5)) unmarked
  obtain ⟨name, asks, fails⟩ := unbound ⟨.step "y" .down .after, 7⟩ (by decide +kernel)
  cases asks
  have sixBefore : ((∅ : Table).set "x" (.ofNat 5)).reach
      (Token.ofText (Text.normalize "x++ ) ++x / 0 + y-- * x++")) = 6 := by decide +kernel
  refine ⟨unmarked, left, ?_, ?_, ?_⟩
  · rw [ran, fails, sixBefore]
    rfl
  · rw [names]
    decide +kernel
  · rw [values]
    decide +kernel

end Reckoner
