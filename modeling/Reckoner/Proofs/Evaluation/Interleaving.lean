import Reckoner.Proofs.Assignment.Form
import Reckoner.Proofs.Evaluation.Resolution
import Reckoner.Proofs.Reduction.Derivation

/-!
Contract: evaluation in two phases is evaluation of the derivation tree.

The walk over a tree reads and changes the table at every operand and applies
an operator as soon as both of its sides have a value. The two phases replace
all operands first and apply all operators afterwards. On a run that succeeds
the two cannot be told apart, because an operator does not see the table.

Owns: the walk over trees with variables and steps, and the comparison.

Does not own: the table and error of a run that fails.
-/

namespace Reckoner

open Grammar

namespace Grammar.Tree

variable {level : Level}

/-- The value of a tree, with the effects of its operands in their order. -/
def evaluate (tree : Tree Operand level) : EvalM Binary64 :=
  tree.walk Operand.visit fun operator left right =>
    EvalM.ofExcept (calculate left right operator.symbol)

/-- The tree with a number in the place of each operand. -/
def resolve : {level : Level} → Tree Operand level → EvalM (Tree Binary64 level)
  | _, .operand leaf => do
      let value ← leaf.visit
      return .operand value
  | _, .group inner => do
      let resolved ← inner.resolve
      return .group resolved
  | _, .factor only => do
      let resolved ← only.resolve
      return .factor resolved
  | _, .multiply left operator tier right => do
      let resolvedLeft ← left.resolve
      let resolvedRight ← right.resolve
      return .multiply resolvedLeft operator tier resolvedRight
  | _, .product only => do
      let resolved ← only.resolve
      return .product resolved
  | _, .add left operator tier right => do
      let resolvedLeft ← left.resolve
      let resolvedRight ← right.resolve
      return .add resolvedLeft operator tier resolvedRight

end Grammar.Tree

/-! ### Walking and resolving -/

/-- Two parts that can be resolved first can be resolved first together: the
operator between them is applied after both. -/
theorem runOn_pair_eq_ok_iff {α β γ : Type} {operator : Operator}
    {leftWalk rightWalk : EvalM Binary64} {leftResolve : EvalM α} {rightResolve : EvalM β}
    {node : α → β → γ} {leftValue : α → Except EvalError Binary64}
    {rightValue : β → Except EvalError Binary64} {nodeValue : γ → Except EvalError Binary64}
    (leftAgrees : ∀ {table left value}, leftWalk.runOn table = (.ok value, left) ↔
      ∃ part, leftResolve.runOn table = (.ok part, left) ∧ leftValue part = .ok value)
    (rightAgrees : ∀ {table left value}, rightWalk.runOn table = (.ok value, left) ↔
      ∃ part, rightResolve.runOn table = (.ok part, left) ∧ rightValue part = .ok value)
    (nodeHas : ∀ {leftPart rightPart value}, nodeValue (node leftPart rightPart) = .ok value ↔
      ∃ first second, leftValue leftPart = .ok first ∧ rightValue rightPart = .ok second ∧
        operator.apply first second = .ok value)
    {table left : Table} {value : Binary64} :
    (leftWalk >>= fun first => rightWalk >>= fun second =>
        EvalM.ofExcept (calculate first second operator.symbol)).runOn table =
          (.ok value, left) ↔
      ∃ whole, (leftResolve >>= fun leftPart => rightResolve >>= fun rightPart =>
          pure (node leftPart rightPart)).runOn table = (.ok whole, left) ∧
        nodeValue whole = .ok value := by
  constructor
  · intro walked
    obtain ⟨first, between, walkedLeft, walkedRest⟩ := EvalM.runOn_bind_eq_ok_iff.mp walked
    obtain ⟨second, after, walkedRight, applied⟩ := EvalM.runOn_bind_eq_ok_iff.mp walkedRest
    obtain ⟨leftPart, resolvedLeft, leftHas⟩ := leftAgrees.mp walkedLeft
    obtain ⟨rightPart, resolvedRight, rightHas⟩ := rightAgrees.mp walkedRight
    rw [EvalM.runOn_ofExcept, calculate_symbol, Prod.mk.injEq] at applied
    obtain ⟨applied, rfl⟩ := applied
    exact ⟨node leftPart rightPart,
      EvalM.runOn_bind_eq_ok_iff.mpr ⟨leftPart, between, resolvedLeft,
        EvalM.runOn_bind_eq_ok_iff.mpr ⟨rightPart, after, resolvedRight, rfl⟩⟩,
      nodeHas.mpr ⟨first, second, leftHas, rightHas, applied⟩⟩
  · rintro ⟨whole, resolved, has⟩
    obtain ⟨leftPart, between, resolvedLeft, resolvedRest⟩ :=
      EvalM.runOn_bind_eq_ok_iff.mp resolved
    obtain ⟨rightPart, after, resolvedRight, same⟩ := EvalM.runOn_bind_eq_ok_iff.mp resolvedRest
    cases same
    obtain ⟨first, second, leftHas, rightHas, applied⟩ := nodeHas.mp has
    refine EvalM.runOn_bind_eq_ok_iff.mpr ⟨first, between,
      leftAgrees.mpr ⟨leftPart, resolvedLeft, leftHas⟩,
      EvalM.runOn_bind_eq_ok_iff.mpr ⟨second, left,
        rightAgrees.mpr ⟨rightPart, resolvedRight, rightHas⟩, ?_⟩⟩
    rw [EvalM.runOn_ofExcept, calculate_symbol, applied]

/-- A part that can be resolved first can be resolved first inside a node that
has its value. -/
theorem runOn_single_eq_ok_iff {α β : Type} (node : α → β) {walk : EvalM Binary64}
    {resolve : EvalM α} {partValue : α → Except EvalError Binary64}
    {nodeValue : β → Except EvalError Binary64}
    (agrees : ∀ {table left value}, walk.runOn table = (.ok value, left) ↔
      ∃ part, resolve.runOn table = (.ok part, left) ∧ partValue part = .ok value)
    (nodeHas : ∀ part, nodeValue (node part) = partValue part)
    {table left : Table} {value : Binary64} :
    walk.runOn table = (.ok value, left) ↔
      ∃ whole, (resolve >>= fun part => pure (node part)).runOn table = (.ok whole, left) ∧
        nodeValue whole = .ok value := by
  rw [agrees]
  constructor
  · rintro ⟨part, resolved, has⟩
    refine ⟨node part, EvalM.runOn_bind_eq_ok_iff.mpr ⟨part, left, resolved, rfl⟩, ?_⟩
    rw [nodeHas, has]
  · rintro ⟨whole, resolved, has⟩
    obtain ⟨part, between, resolvedPart, same⟩ := EvalM.runOn_bind_eq_ok_iff.mp resolved
    cases same
    rw [nodeHas] at has
    exact ⟨part, resolvedPart, has⟩

/-- The walk succeeds when resolving does and the numbers have a value. -/
theorem Grammar.Tree.evaluate_eq_ok_iff {level : Level} (tree : Tree Operand level) :
    ∀ {table left : Table} {value : Binary64},
      tree.evaluate.runOn table = (.ok value, left) ↔
        ∃ numbers, tree.resolve.runOn table = (.ok numbers, left) ∧
          numbers.value = .ok value := by
  induction tree with
  | operand leaf =>
      have visited {table left : Table} {value : Binary64} :
          leaf.visit.runOn table = (.ok value, left) ↔
            ∃ number, leaf.visit.runOn table = (.ok number, left) ∧
              (Except.ok number : Except EvalError Binary64) = .ok value := by
        simp
      have nodeHas (number : Binary64) : (Tree.operand number).value = .ok number := rfl
      intro table left value
      change leaf.visit.runOn table = (.ok value, left) ↔ _
      exact runOn_single_eq_ok_iff Tree.operand visited nodeHas
  | group inner inductionHypothesis =>
      exact runOn_single_eq_ok_iff Tree.group inductionHypothesis fun _ => rfl
  | factor only inductionHypothesis =>
      exact runOn_single_eq_ok_iff Tree.factor inductionHypothesis fun _ => rfl
  | multiply leftTree operator tier rightTree leftHypothesis rightHypothesis =>
      exact runOn_pair_eq_ok_iff leftHypothesis rightHypothesis Tree.value_multiply_eq_ok_iff
  | product only inductionHypothesis =>
      exact runOn_single_eq_ok_iff Tree.product inductionHypothesis fun _ => rfl
  | add leftTree operator tier rightTree leftHypothesis rightHypothesis =>
      exact runOn_pair_eq_ok_iff leftHypothesis rightHypothesis Tree.value_add_eq_ok_iff

/-! ### Resolving tokens resolves trees -/

/-- Where the tree is resolved, the tokens are too, and become tokens of the
resolved tree. -/
def Grammar.Tree.ResolvesWith {level : Level} (tree : Tree Operand level)
    (tokens : List Token) : Prop :=
  ∀ {table left numbers}, tree.resolve.runOn table = (.ok numbers, left) →
    ∃ resolved, (resolveAll tokens).runOn table = (.ok resolved, left) ∧
      Derives Token.number? numbers resolved

/-- Tokens that become the resolved ones have a tree that becomes the tree of
numbers. -/
def Grammar.Tree.ResolvedFrom {level : Level} (numbers : Tree Binary64 level)
    (resolved : List Token) : Prop :=
  ∀ {tokens table left}, (resolveAll tokens).runOn table = (.ok resolved, left) →
    ∃ tree : Tree Operand level, Derives Operand.ofToken? tree tokens ∧
      tree.resolve.runOn table = (.ok numbers, left)

namespace Grammar.Tree

variable {first second third : Level} {link : Token} {operator : Operator}

theorem ResolvesWith.single {only : Tree Operand first} {whole : Tree Operand second}
    {node : Tree Binary64 first → Tree Binary64 second} {tokens : List Token}
    (resolvesPart : whole.resolve = only.resolve >>= fun part => pure (node part))
    (derives : ∀ {part tokens}, Derives Token.number? part tokens →
      Derives Token.number? (node part) tokens)
    (leads : only.ResolvesWith tokens) : whole.ResolvesWith tokens := by
  intro table left numbers ran
  rw [resolvesPart] at ran
  obtain ⟨part, between, partRan, same⟩ := EvalM.runOn_bind_eq_ok_iff.mp ran
  cases same
  obtain ⟨resolved, tokensRan, derived⟩ := leads partRan
  exact ⟨resolved, tokensRan, derives derived⟩

theorem ResolvesWith.linked {leftTree : Tree Operand first} {rightTree : Tree Operand second}
    {whole : Tree Operand third}
    {node : Tree Binary64 first → Tree Binary64 second → Tree Binary64 third}
    {leftTokens rightTokens : List Token}
    (resolvesParts : whole.resolve = leftTree.resolve >>= fun leftPart =>
      rightTree.resolve >>= fun rightPart => pure (node leftPart rightPart))
    (derives : ∀ {leftPart rightPart before after}, Derives Token.number? leftPart before →
      Derives Token.number? rightPart after →
        Derives Token.number? (node leftPart rightPart) (before ++ link :: after))
    (names : link.Names operator) (leftLeads : leftTree.ResolvesWith leftTokens)
    (rightLeads : rightTree.ResolvesWith rightTokens) :
    whole.ResolvesWith (leftTokens ++ link :: rightTokens) := by
  intro table left numbers ran
  rw [resolvesParts] at ran
  obtain ⟨leftPart, between, leftRan, restRan⟩ := EvalM.runOn_bind_eq_ok_iff.mp ran
  obtain ⟨rightPart, after, rightRan, same⟩ := EvalM.runOn_bind_eq_ok_iff.mp restRan
  cases same
  obtain ⟨resolvedLeft, leftTokensRan, leftDerived⟩ := leftLeads leftRan
  obtain ⟨resolvedRight, rightTokensRan, rightDerived⟩ := rightLeads rightRan
  exact ⟨_, runOn_resolveAll_link names leftTokensRan rightTokensRan,
    derives leftDerived rightDerived⟩

theorem ResolvedFrom.single {numbers : Tree Binary64 first} {whole : Tree Binary64 second}
    {node : Tree Operand first → Tree Operand second} {resolved : List Token}
    (resolvesPart : ∀ {tree table left}, tree.resolve.runOn table = (.ok numbers, left) →
      (node tree).resolve.runOn table = (.ok whole, left))
    (derives : ∀ {part tokens}, Derives Operand.ofToken? part tokens →
      Derives Operand.ofToken? (node part) tokens)
    (leads : numbers.ResolvedFrom resolved) : whole.ResolvedFrom resolved := by
  intro tokens table left ran
  obtain ⟨tree, derived, treeRan⟩ := leads ran
  exact ⟨node tree, derives derived, resolvesPart treeRan⟩

theorem ResolvedFrom.linked {leftNumbers : Tree Binary64 first}
    {rightNumbers : Tree Binary64 second} {resolvedLeft resolvedRight : List Token}
    (node : ∀ {α}, Tree α first → Tree α second → Tree α third)
    (resolvesParts : ∀ leftTree rightTree, (node leftTree rightTree).resolve =
      leftTree.resolve >>= fun leftPart =>
        rightTree.resolve >>= fun rightPart => pure (node leftPart rightPart))
    (derives : ∀ {leftPart rightPart before after}, Derives Operand.ofToken? leftPart before →
      Derives Operand.ofToken? rightPart after →
        Derives Operand.ofToken? (node leftPart rightPart) (before ++ link :: after))
    (names : link.Names operator) (leftLeads : leftNumbers.ResolvedFrom resolvedLeft)
    (rightLeads : rightNumbers.ResolvedFrom resolvedRight) :
    (node leftNumbers rightNumbers).ResolvedFrom (resolvedLeft ++ link :: resolvedRight) := by
  intro tokens table left ran
  obtain ⟨leftTokens, rightTokens, between, rfl, leftRan, rightRan⟩ := split_at_link names ran
  obtain ⟨leftTree, leftDerived, leftTreeRan⟩ := leftLeads leftRan
  obtain ⟨rightTree, rightDerived, rightTreeRan⟩ := rightLeads rightRan
  refine ⟨node leftTree rightTree, derives leftDerived rightDerived, ?_⟩
  rw [resolvesParts]
  exact EvalM.runOn_bind_eq_ok_iff.mpr ⟨_, between, leftTreeRan,
    EvalM.runOn_bind_eq_ok_iff.mpr ⟨_, left, rightTreeRan, rfl⟩⟩

end Grammar.Tree

private theorem resolvesWith_of_derives {level : Level} {tree : Tree Operand level}
    {tokens : List Token} (derived : Derives Operand.ofToken? tree tokens) :
    tree.ResolvesWith tokens := by
  induction derived with
  | @operand token leaf reads =>
      intro table left numbers ran
      obtain ⟨value, between, visited, same⟩ := EvalM.runOn_bind_eq_ok_iff.mp ran
      cases same
      have tokenRan : token.resolve.runOn table = (.ok ⟨.number value, token.column⟩, left) :=
        Token.resolve_eq_ok_iff.mpr (.inr ⟨leaf, value, reads, visited, rfl⟩)
      exact ⟨[⟨.number value, token.column⟩],
        runOn_resolveAll_cons_eq_ok_iff.mpr ⟨_, [], left, tokenRan, rfl, rfl⟩, .operand rfl⟩
  | @group inner opening closing tokens opens _ closes inductionHypothesis =>
      intro table left numbers ran
      obtain ⟨innerNumbers, between, innerRan, same⟩ := EvalM.runOn_bind_eq_ok_iff.mp ran
      cases same
      obtain ⟨resolved, resolvedInner, innerDerived⟩ := inductionHypothesis innerRan
      have closingRan : (resolveAll [closing]).runOn left = (.ok [closing], left) :=
        runOn_resolveAll_keep (Operand.ofToken?_of_closes closes) rfl
      exact ⟨opening :: (resolved ++ [closing]),
        runOn_resolveAll_keep (Operand.ofToken?_of_opens opens)
          (runOn_resolveAll_append closingRan resolvedInner),
        .group opens innerDerived closes⟩
  | factor _ inductionHypothesis => exact Tree.ResolvesWith.single rfl .factor inductionHypothesis
  | multiply _ names _ leftHypothesis rightHypothesis =>
      exact Tree.ResolvesWith.linked rfl (fun before after => .multiply before names after) names
        leftHypothesis rightHypothesis
  | product _ inductionHypothesis => exact Tree.ResolvesWith.single rfl .product inductionHypothesis
  | add _ names _ leftHypothesis rightHypothesis =>
      exact Tree.ResolvesWith.linked rfl (fun before after => .add before names after) names
        leftHypothesis rightHypothesis

private theorem resolvedFrom_of_derives {level : Level} {numbers : Tree Binary64 level}
    {resolved : List Token} (derived : Derives Token.number? numbers resolved) :
    numbers.ResolvedFrom resolved := by
  induction derived with
  | @operand resolved number reads =>
      intro tokens table left ran
      cases tokens with
      | nil => cases ran
      | cons token rest =>
          obtain ⟨first, remaining, between, firstRan, restRan, same⟩ :=
            runOn_resolveAll_cons_eq_ok_iff.mp ran
          injection same with sameFirst sameRest
          subst sameFirst sameRest
          obtain ⟨rfl, rfl⟩ := nothing_of_runOn_resolveAll restRan
          rcases Token.resolve_eq_ok_iff.mp firstRan with
            ⟨noOperand, rfl, rfl⟩ | ⟨operand, value, isOperand, visited, rfl⟩
          · rw [Operand.ofToken?_of_number? reads] at noOperand
            cases noOperand
          · cases reads
            exact ⟨.operand operand, .operand isOperand,
              EvalM.runOn_bind_eq_ok_iff.mpr ⟨number, between, visited, rfl⟩⟩
  | @group inner opening closing resolvedInner opens _ closes inductionHypothesis =>
      intro tokens table left ran
      obtain ⟨rest, rfl, restRan⟩ := kept_of_runOn_resolveAll (Token.number?_of_opens opens) ran
      obtain ⟨inside, after, between, rfl, insideRan, afterRan⟩ :=
        split_of_runOn_resolveAll restRan
      obtain ⟨last, rfl, lastRan⟩ :=
        kept_of_runOn_resolveAll (Token.number?_of_closes closes) afterRan
      have nothingLeft : last = [] ∧ between = left := nothing_of_runOn_resolveAll lastRan
      obtain ⟨rfl, rfl⟩ := nothingLeft
      obtain ⟨tree, treeDerived, treeRan⟩ := inductionHypothesis insideRan
      exact ⟨.group tree, .group opens treeDerived closes,
        EvalM.runOn_bind_eq_ok_iff.mpr ⟨_, between, treeRan, rfl⟩⟩
  | factor _ inductionHypothesis =>
      exact Tree.ResolvedFrom.single (fun ran => EvalM.runOn_bind_eq_ok_iff.mpr ⟨_, _, ran, rfl⟩)
        .factor inductionHypothesis
  | @multiply _ operator tier _ _ _ _ _ names _ leftHypothesis rightHypothesis =>
      exact Tree.ResolvedFrom.linked (fun left right => .multiply left operator tier right)
        (fun _ _ => rfl) (fun before after => .multiply before names after) names leftHypothesis
        rightHypothesis
  | product _ inductionHypothesis =>
      exact Tree.ResolvedFrom.single (fun ran => EvalM.runOn_bind_eq_ok_iff.mpr ⟨_, _, ran, rfl⟩)
        .product inductionHypothesis
  | @add _ operator tier _ _ _ _ _ names _ leftHypothesis rightHypothesis =>
      exact Tree.ResolvedFrom.linked (fun left right => .add left operator tier right)
        (fun _ _ => rfl) (fun before after => .add before names after) names leftHypothesis
        rightHypothesis

/-! ### Texts -/

theorem separatesOperands_ofToken? : SeparatesOperands Operand.ofToken? where
  depthChange_eq_zero := by
    intro token operand reads
    unfold Operand.ofToken? at reads
    unfold depthChange
    cases same : token.lexeme with
    | openParen spelling => simp [same] at reads
    | closeParen spelling => simp [same] at reads
    | _ => rfl
  not_names := by
    intro token operand reads operator names
    rw [Operand.ofToken?_of_names names] at reads
    cases reads

/-- Words have a value when their tokens have a tree and the walk over it succeeds. -/
theorem runOn_evaluateWords_eq_ok_iff {words : List String} {table left : Table}
    {value : Binary64} :
    (evaluateWords words).runOn table = (.ok value, left) ↔
      ∃ tree : Tree Operand .sum, Derives Operand.ofToken? tree (Token.ofWords words) ∧
        tree.evaluate.runOn table = (.ok value, left) := by
  rw [evaluateWords, EvalM.runOn_bind_eq_ok_iff]
  constructor
  · rintro ⟨resolved, between, resolvedAll, reduced⟩
    rw [EvalM.runOn_ofExcept, Prod.mk.injEq] at reduced
    obtain ⟨reduced, rfl⟩ := reduced
    obtain ⟨numbers, derived, has⟩ := valueOfTokens_eq_ok_iff_denotes.mp reduced
    obtain ⟨tree, treeDerived, treeRan⟩ := resolvedFrom_of_derives derived resolvedAll
    exact ⟨tree, treeDerived, tree.evaluate_eq_ok_iff.mpr ⟨numbers, treeRan, has⟩⟩
  · rintro ⟨tree, treeDerived, walked⟩
    obtain ⟨numbers, treeRan, has⟩ := tree.evaluate_eq_ok_iff.mp walked
    obtain ⟨resolved, resolvedAll, derived⟩ := resolvesWith_of_derives treeDerived treeRan
    refine ⟨resolved, left, resolvedAll, ?_⟩
    rw [EvalM.runOn_ofExcept, valueOfTokens_eq_ok_iff_denotes.mpr ⟨numbers, derived, has⟩]

/-- **Two phases and one walk agree.** A text without assignment markers has a
value exactly when its tokens have a derivation tree, which is then the only
one, and the walk over that tree yields the value and leaves the same table. -/
theorem runOn_evaluate_eq_ok_iff_walk (text : String) (table left : Table) (value : Binary64)
    (unmarked : ∀ marker : Marker, marker.spelling ∉ Text.words text) :
    (evaluate text).runOn table = (.ok value, left) ↔
      ∃ tree : Tree Operand .sum,
        Derives Operand.ofToken? tree (Token.ofText (Text.normalize text)) ∧
          (∀ other, Derives Operand.ofToken? other (Token.ofText (Text.normalize text)) →
            other = tree) ∧
            tree.evaluate.runOn table = (.ok value, left) := by
  have reading : (evaluate text).runOn table = (evaluateWords (Text.words text)).runOn table := by
    rw [runOn_evaluate, Statement.ofText, Statement.ofWords_of_unmarked unmarked]
    rfl
  rw [reading, runOn_evaluateWords_eq_ok_iff]
  change (∃ tree : Tree Operand .sum,
    Derives Operand.ofToken? tree (Token.ofText (Text.normalize text)) ∧ _) ↔ _
  constructor
  · rintro ⟨tree, derived, walked⟩
    exact ⟨tree, derived,
      fun other derivedToo => derivedToo.unique separatesOperands_ofToken? derived rfl, walked⟩
  · rintro ⟨tree, derived, _, walked⟩
    exact ⟨tree, derived, walked⟩

theorem runOn_evaluate_walk_of_steps :
    (∀ marker : Marker, marker.spelling ∉ Text.words "x++ - ( ++x * 2 )") ∧
      (evaluate "x++ - ( ++x * 2 )").runOn ((∅ : Table).set "x" (.ofNat 3)) =
        (.ok (Binary64.ofNat 7).neg, (∅ : Table).set "x" (.ofNat 5)) ∧
      ∃ tree : Tree Operand .sum,
        Derives Operand.ofToken? tree (Token.ofText (Text.normalize "x++ - ( ++x * 2 )")) ∧
          (∀ other,
            Derives Operand.ofToken? other
              (Token.ofText (Text.normalize "x++ - ( ++x * 2 )")) → other = tree) ∧
            tree.evaluate.runOn ((∅ : Table).set "x" (.ofNat 3)) =
              (.ok (Binary64.ofNat 7).neg, (∅ : Table).set "x" (.ofNat 5)) := by
  have unmarked : ∀ marker : Marker, marker.spelling ∉ Text.words "x++ - ( ++x * 2 )" :=
    Marker.firstIn?_eq_none_iff.mp (by decide)
  have evaluated :
      (evaluate "x++ - ( ++x * 2 )").runOn ((∅ : Table).set "x" (.ofNat 3)) =
        (.ok (Binary64.ofNat 7).neg, (∅ : Table).set "x" (.ofNat 5)) := by
    decide +kernel
  exact ⟨unmarked, evaluated, (runOn_evaluate_eq_ok_iff_walk _ _ _ _ unmarked).mp evaluated⟩

end Reckoner
