import Reckoner.Proofs.Sequencing

/-!
Contract: the kinds of errors that each phase of an evaluation can end with.

Reducing a flat expression, pairing the parentheses around it, and resolving
the variables in front of it each add kinds of their own. What none of them
adds is an invalid assignment, so a statement that has been read is no longer
refused as one.

Owns: the kinds of each phase, and which texts are refused as assignments.

Does not own: when an error of an admitted kind arises.
-/

namespace Reckoner

variable {α β : Type} {kinds : List ErrorKind}

/-- An error of the result is of one of the kinds. -/
def FailsOnly (kinds : List ErrorKind) (result : Except EvalError α) : Prop :=
  ∀ error, result = .error error → error.kind ∈ kinds

namespace FailsOnly

theorem ok (value : α) : FailsOnly kinds (.ok value) :=
  fun _ impossible => nomatch impossible

theorem error {error : EvalError} (listed : decide (error.kind ∈ kinds) = true) :
    FailsOnly kinds (.error error : Except EvalError α) := by
  intro _ same
  cases same
  exact of_decide_eq_true listed

theorem bind {result : Except EvalError α} {next : α → Except EvalError β}
    (first : FailsOnly kinds result) (second : ∀ value, FailsOnly kinds (next value)) :
    FailsOnly kinds (result >>= next) := by
  cases result with
  | ok value => exact second value
  | error cause => exact .error (decide_eq_true (first cause rfl))

theorem cons {result : Except EvalError α} (only : FailsOnly kinds result) (kind : ErrorKind) :
    FailsOnly (kind :: kinds) result :=
  fun error fails => List.mem_cons_of_mem kind (only error fails)

end FailsOnly

/-! ### Reduction -/

def reductionKinds : List ErrorKind :=
  [.malformedExpression, .invalidOperator, .divisionByZero]

theorem Operator.apply_failsOnly (operator : Operator) (left right : Binary64) :
    FailsOnly reductionKinds (operator.apply left right) := by
  unfold Operator.apply
  cases operator with
  | divide | remainder =>
      dsimp only
      split
      · exact .error rfl
      · exact .ok _
  | multiply | add | subtract => exact .ok _

namespace Chain

theorem operand_failsOnly (token : Token) : FailsOnly reductionKinds (operand token) := by
  unfold operand
  split
  · exact .ok _
  · exact .error rfl

theorem operatorAt_failsOnly (token : Token) : FailsOnly reductionKinds (operatorAt token) := by
  unfold operatorAt
  split
  · split
    · exact .ok _
    · exact .error rfl
  · exact .error rfl

theorem links_failsOnly : ∀ tokens : List Token, FailsOnly reductionKinds (links tokens)
  | [] => .ok _
  | [last] => .bind (operatorAt_failsOnly last) fun _ => .error rfl
  | link :: next :: rest =>
      .bind (operatorAt_failsOnly link) fun _ =>
        .bind (operand_failsOnly next) fun _ =>
          .bind (links_failsOnly rest) fun _ => .ok _

theorem ofTokens_failsOnly : ∀ tokens : List Token, FailsOnly reductionKinds (ofTokens tokens)
  | [] => .error rfl
  | token :: rest =>
      .bind (operand_failsOnly token) fun _ => .bind (links_failsOnly rest) fun _ => .ok _

theorem products_failsOnly (rest : List (Operator × Binary64)) :
    ∀ first : Binary64, FailsOnly reductionKinds (products first rest) := by
  induction rest with
  | nil => exact fun first => .ok _
  | cons link rest inductionHypothesis =>
      intro first
      obtain ⟨operator, value⟩ := link
      unfold products
      split
      · exact .bind (operator.apply_failsOnly first value) inductionHypothesis
      · exact .bind (inductionHypothesis value) fun _ => .ok _

theorem total_failsOnly (rest : List (Operator × Binary64)) :
    ∀ first : Binary64, FailsOnly reductionKinds (total first rest) := by
  induction rest with
  | nil => exact fun first => .ok first
  | cons link rest inductionHypothesis =>
      intro first
      exact .bind (link.1.apply_failsOnly first link.2) inductionHypothesis

end Chain

theorem reduce_failsOnly (tokens : List Token) : FailsOnly reductionKinds (reduce tokens) :=
  .bind (Chain.ofTokens_failsOnly tokens) fun chain =>
    .bind (Chain.products_failsOnly chain.rest chain.first) fun sum =>
      Chain.total_failsOnly sum.rest sum.first

/-! ### Groups -/

def groupingKinds : List ErrorKind :=
  .mismatchedParentheses :: reductionKinds

theorem flattenFrom_failsOnly (tokens : List Token) :
    ∀ (groups : List OpenGroup) (current : List Token),
      FailsOnly groupingKinds (flattenFrom groups current tokens) := by
  induction tokens with
  | nil =>
      intro groups current
      cases groups with
      | nil => exact .ok _
      | cons group outer => exact .error rfl
  | cons token rest inductionHypothesis =>
      intro groups current
      unfold flattenFrom
      split
      · exact inductionHypothesis _ _
      · cases groups with
        | nil => exact .error rfl
        | cons group outer =>
            exact .bind ((reduce_failsOnly _).cons _) fun _ => inductionHypothesis _ _
      · exact inductionHypothesis _ _

theorem valueOfTokens_failsOnly (tokens : List Token) :
    FailsOnly groupingKinds (valueOfTokens tokens) :=
  .bind (flattenFrom_failsOnly tokens [] []) fun flat => (reduce_failsOnly flat).cons _

/-! ### Statements -/

namespace EvalM

/-- An error of any run of the computation is of one of the kinds. -/
def FailsOnly (kinds : List ErrorKind) (computation : EvalM α) : Prop :=
  ∀ table, Reckoner.FailsOnly kinds (computation.runOn table).1

namespace FailsOnly

theorem pure (value : α) : FailsOnly kinds (Pure.pure value : EvalM α) :=
  fun _ => .ok value

theorem ofExcept {result : Except EvalError α} (only : Reckoner.FailsOnly kinds result) :
    FailsOnly kinds (EvalM.ofExcept result) :=
  fun _ => only

theorem bind {first : EvalM α} {next : α → EvalM β} (firstOnly : FailsOnly kinds first)
    (nextOnly : ∀ value, FailsOnly kinds (next value)) : FailsOnly kinds (first >>= next) := by
  intro table
  have only := firstOnly table
  rw [runOn_bind]
  generalize first.runOn table = run at only
  obtain ⟨outcome, left⟩ := run
  cases outcome with
  | ok value => exact nextOnly value left
  | error error => exact .error (decide_eq_true (only error rfl))

end FailsOnly

end EvalM

def executionKinds : List ErrorKind :=
  .undefinedVariable :: groupingKinds

theorem lookUp_failsOnly (name : String) (column : Option Int) :
    (lookUp name column).FailsOnly executionKinds := by
  intro table
  rw [runOn_lookUp]
  split
  · exact .ok _
  · exact .error rfl

theorem assign_failsOnly (name : String) (value : Binary64) :
    (assign name value).FailsOnly executionKinds :=
  fun _ => .ok ()

theorem Token.resolve_failsOnly (token : Token) : token.resolve.FailsOnly executionKinds := by
  unfold Token.resolve
  split
  · exact .bind (lookUp_failsOnly _ _) fun _ => .pure _
  · refine .bind (lookUp_failsOnly _ _) fun _ => .bind (assign_failsOnly _ _) fun _ => ?_
    split
    · exact .pure _
    · exact .pure _
  · exact .pure _

theorem resolveAll_failsOnly : ∀ tokens : List Token, (resolveAll tokens).FailsOnly executionKinds
  | [] => .pure _
  | token :: rest =>
      .bind token.resolve_failsOnly fun _ => .bind (resolveAll_failsOnly rest) fun _ => .pure _

theorem evaluateWords_failsOnly (words : List String) :
    (evaluateWords words).FailsOnly executionKinds :=
  .bind (resolveAll_failsOnly _) fun resolved =>
    .ofExcept ((valueOfTokens_failsOnly resolved).cons _)

theorem Marker.combine_failsOnly (marker : Marker) (target : String) (value : Binary64) :
    (marker.combine target value).FailsOnly executionKinds := by
  cases marker with
  | plain => exact .pure value
  | compound operator =>
      exact .bind (lookUp_failsOnly _ _) fun current =>
        .ofExcept (((operator.apply_failsOnly current value).cons _).cons _)

theorem Statement.execute_failsOnly (statement : Statement) :
    statement.execute.FailsOnly executionKinds := by
  induction statement with
  | expression words => exact evaluateWords_failsOnly words
  | assignment target marker source inductionHypothesis =>
      exact .bind inductionHypothesis fun value =>
        .bind (marker.combine_failsOnly target value) fun result =>
          .bind (assign_failsOnly target result) fun _ => .pure result

/-- A text is refused as an assignment exactly if reading it is, before it has
any effect. -/
theorem runOn_evaluate_eq_refused_iff {text : String} {table left : Table}
    {cause : InvalidAssignment} :
    (evaluate text).runOn table = (.error (.invalidAssignment cause), left) ↔
      Statement.ofText text = .error (.invalidAssignment cause) ∧ left = table := by
  rw [runOn_evaluate]
  cases Statement.ofText text with
  | error error => simp [eq_comm]
  | ok statement =>
      constructor
      · intro refused
        have refused : statement.execute.runOn table = _ := refused
        have only := statement.execute_failsOnly table
        rw [refused] at only
        have listed : ErrorKind.invalidAssignment ∈ executionKinds := only _ rfl
        exact absurd listed (by decide)
      · rintro ⟨impossible, _⟩
        cases impossible

end Reckoner
