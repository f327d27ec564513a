import Mathlib.Algebra.Ring.Int.Defs
import Reckoner.Proofs.Grammar.Tree

/-!
Contract: tokens have at most one derivation tree.

The depth of tokens is the number of their open parentheses minus the number
of their closing ones. The tokens of a tree have depth zero, and an operator
that is looser than the category of the tree stands at a positive depth. So
the last operator of the tier at depth zero is where the tokens are split, and
no other split derives them.

Owns: the depth of tokens, and the uniqueness of trees for every reading that
takes neither parentheses nor operators for operands.

Does not own: the trees.
-/

namespace Reckoner.Grammar

variable {α : Type} {read : Token → Option α} {level : Level}

/-! ### Depth -/

def depthChange (token : Token) : Int :=
  match token.lexeme with
  | .openParen _ => 1
  | .closeParen _ => -1
  | _ => 0

def depth (tokens : List Token) : Int :=
  (tokens.map depthChange).sum

@[simp] theorem depth_nil : depth [] = 0 := rfl

@[simp] theorem depth_cons (token : Token) (tokens : List Token) :
    depth (token :: tokens) = depthChange token + depth tokens := by
  simp [depth]

@[simp] theorem depth_append (left right : List Token) :
    depth (left ++ right) = depth left + depth right := by
  induction left with
  | nil => simp
  | cons token rest inductionHypothesis =>
      simp only [List.cons_append, depth_cons, inductionHypothesis]
      omega

theorem depthChange_of_opens {token : Token} (opens : token.Opens) : depthChange token = 1 := by
  obtain ⟨spelling, same⟩ := opens
  simp [depthChange, same]

theorem depthChange_of_closes {token : Token} (closes : token.Closes) :
    depthChange token = -1 := by
  obtain ⟨spelling, same⟩ := closes
  simp [depthChange, same]

private theorem depthChange_of_names {token : Token} {operator : Operator}
    (names : token.Names operator) : depthChange token = 0 := by
  simp [depthChange, (show token.lexeme = _ from names)]

/-! ### Balanced tokens -/

/-- Every parenthesis has its partner among the tokens. -/
structure Balanced (tokens : List Token) : Prop where
  depth_eq_zero : depth tokens = 0
  prefix_nonneg : ∀ before after, tokens = before ++ after → 0 ≤ depth before

theorem Balanced.singleton {token : Token} (level : depthChange token = 0) :
    Balanced [token] where
  depth_eq_zero := by simp [level]
  prefix_nonneg := by
    intro before after split
    rcases List.singleton_eq_append_iff.mp split with ⟨empty, _⟩ | ⟨all, _⟩
    · simp [empty]
    · simp [all, level]

theorem Balanced.append {left right : List Token} (leftBalanced : Balanced left)
    (rightBalanced : Balanced right) : Balanced (left ++ right) where
  depth_eq_zero := by
    rw [depth_append, leftBalanced.depth_eq_zero, rightBalanced.depth_eq_zero]
    rfl
  prefix_nonneg := by
    intro before after split
    rcases List.append_eq_append_iff.mp split with ⟨inner, reaches, rest⟩ | ⟨inner, rest, _⟩
    · have innerNonneg := rightBalanced.prefix_nonneg inner after rest
      rw [reaches, depth_append, leftBalanced.depth_eq_zero]
      omega
    · exact leftBalanced.prefix_nonneg before inner rest

/-- Inside a group the depth is positive everywhere. -/
theorem Balanced.depth_pos_of_group {opening closing : Token} {tokens before after : List Token}
    (opens : opening.Opens) (inside : Balanced tokens)
    (split : opening :: (tokens ++ [closing]) = before ++ after)
    (started : before ≠ []) (unfinished : after ≠ []) : 0 < depth before := by
  rcases List.cons_eq_append_iff.mp split with ⟨empty, _⟩ | ⟨inner, same, rest⟩
  · exact absurd empty started
  · have innerNonneg : 0 ≤ depth inner := by
      rcases List.append_eq_append_iff.mp rest with ⟨more, reaches, last⟩ | ⟨more, within, _⟩
      · rcases List.singleton_eq_append_iff.mp last with ⟨empty, _⟩ | ⟨_, empty⟩
        · rw [reaches, empty, List.append_nil]
          exact Int.le_of_eq inside.depth_eq_zero.symm
        · exact absurd empty unfinished
      · exact inside.prefix_nonneg inner more within
    rw [same, depth_cons, depthChange_of_opens opens]
    omega

theorem Balanced.group {opening closing : Token} {tokens : List Token}
    (opens : opening.Opens) (inside : Balanced tokens) (closes : closing.Closes) :
    Balanced (opening :: (tokens ++ [closing])) := by
  have whole : depth (opening :: (tokens ++ [closing])) = 0 := by
    simp [depthChange_of_opens opens, depthChange_of_closes closes, inside.depth_eq_zero]
  refine ⟨whole, ?_⟩
  intro before after split
  by_cases started : before = []
  · simp [started]
  by_cases finished : after = []
  · rw [finished, List.append_nil] at split
    rw [← split]
    exact Int.le_of_eq whole.symm
  · exact Int.le_of_lt (inside.depth_pos_of_group opens split started finished)

/-- Every occurrence of the operator stands inside parentheses. -/
def Shields (tokens : List Token) (operator : Operator) : Prop :=
  ∀ before link after, tokens = before ++ link :: after → link.Names operator →
    0 < depth before

theorem Shields.singleton {token : Token} {operator : Operator}
    (other : ¬ token.Names operator) : Shields [token] operator := by
  intro before link after split names
  rcases List.singleton_eq_append_iff.mp split with ⟨_, same⟩ | ⟨_, impossible⟩
  · cases same
    exact absurd names other
  · exact absurd impossible (List.cons_ne_nil _ _)

theorem Shields.append {left right : List Token} {operator : Operator}
    (leftBalanced : Balanced left) (leftShields : Shields left operator)
    (rightShields : Shields right operator) : Shields (left ++ right) operator := by
  intro before link after split names
  rcases List.append_eq_append_iff.mp split with ⟨inner, reaches, rest⟩ | ⟨inner, reaches, rest⟩
  · have innerPositive := rightShields inner link after rest names
    rw [reaches, depth_append, leftBalanced.depth_eq_zero]
    omega
  · rcases List.cons_eq_append_iff.mp rest with ⟨empty, first⟩ | ⟨more, same, _⟩
    · have innerPositive := rightShields [] link after first names
      simp at innerPositive
    · rw [same] at reaches
      exact leftShields before link more reaches names

theorem Shields.group {opening closing : Token} {tokens : List Token} {operator : Operator}
    (opens : opening.Opens) (inside : Balanced tokens) :
    Shields (opening :: (tokens ++ [closing])) operator := by
  intro before link after split names
  have started : before ≠ [] := by
    rintro rfl
    have same : opening = link := (List.cons.inj split).1
    have change := depthChange_of_names names
    rw [← same, depthChange_of_opens opens] at change
    exact absurd change (by decide)
  exact inside.depth_pos_of_group opens split started (List.cons_ne_nil _ _)

section Splits

variable {left right left' right' : List Token} {link link' : Token}
  {operator operator' : Operator}

/-- A longer left part would hold the operator of the shorter one's split, and
have what follows it at a positive depth. -/
theorem split_unique_of_prefix {inner : List Token} (balanced : Balanced left)
    (balanced' : Balanced left') (names : link.Names operator) (names' : link'.Names operator')
    (shields : Shields right operator') (reaches : left' = left ++ inner)
    (rest : link :: right = inner ++ link' :: right') :
    left = left' ∧ operator = operator' ∧ right = right' := by
  rcases List.cons_eq_append_iff.mp rest with ⟨empty, first⟩ | ⟨more, longer, within⟩
  · simp only [empty, List.append_nil] at reaches
    injection first with sameLink sameRight
    subst sameLink
    exact ⟨reaches.symm, names.unique names', sameRight.symm⟩
  · have positive := shields more link' right' within names'
    have total := balanced'.depth_eq_zero
    rw [reaches, longer, depth_append, depth_cons, balanced.depth_eq_zero,
      depthChange_of_names names] at total
    omega

/-- A split at an operator is determined when neither right part has the
operator of the other split outside parentheses. -/
theorem split_unique (balanced : Balanced left) (balanced' : Balanced left')
    (names : link.Names operator) (names' : link'.Names operator')
    (shields : Shields right operator') (shields' : Shields right' operator)
    (same : left ++ link :: right = left' ++ link' :: right') :
    left = left' ∧ operator = operator' ∧ right = right' := by
  rcases List.append_eq_append_iff.mp same with ⟨inner, reaches, rest⟩ | ⟨inner, reaches, rest⟩
  · exact split_unique_of_prefix balanced balanced' names names' shields reaches rest
  · have ⟨sameLeft, sameOperator, sameRight⟩ :=
      split_unique_of_prefix balanced' balanced names' names shields' reaches rest
    exact ⟨sameLeft.symm, sameOperator.symm, sameRight.symm⟩

end Splits

/-- Operands are neither parentheses nor operators. -/
structure SeparatesOperands (read : Token → Option α) : Prop where
  depthChange_eq_zero : ∀ {token leaf}, read token = some leaf → depthChange token = 0
  not_names : ∀ {token leaf}, read token = some leaf → ∀ operator, ¬ token.Names operator

namespace SeparatesOperands

variable {token : Token} {leaf : α}

theorem not_opens (separates : SeparatesOperands read) (reads : read token = some leaf) :
    ¬ token.Opens := by
  intro opens
  have flat := separates.depthChange_eq_zero reads
  rw [depthChange_of_opens opens] at flat
  cases flat

theorem not_closes (separates : SeparatesOperands read) (reads : read token = some leaf) :
    ¬ token.Closes := by
  intro closes
  have flat := separates.depthChange_eq_zero reads
  rw [depthChange_of_closes closes] at flat
  cases flat

end SeparatesOperands

/-- Whether the operator can join the parts of a tree of the category. -/
def Level.admits : Level → Operator → Bool
  | .sum, _ => true
  | .product, operator => operator.isMultiplicative
  | .factor, _ => false

namespace Derives

variable {tree : Tree α level} {tokens : List Token}

theorem balanced (separates : SeparatesOperands read) (derived : Derives read tree tokens) :
    Balanced tokens := by
  induction derived with
  | operand reads => exact .singleton (separates.depthChange_eq_zero reads)
  | group opens _ closes inside => exact .group opens inside closes
  | factor _ whole => exact whole
  | multiply _ names _ left right =>
      exact left.append (.append (.singleton (depthChange_of_names names)) right)
  | product _ whole => exact whole
  | add _ names _ left right =>
      exact left.append (.append (.singleton (depthChange_of_names names)) right)

/-- An operator that is looser than the category stands inside parentheses. -/
theorem shields (separates : SeparatesOperands read) (derived : Derives read tree tokens)
    {operator : Operator} (looser : level.admits operator = false) :
    Shields tokens operator := by
  induction derived with
  | operand reads => exact .singleton (separates.not_names reads operator)
  | group opens inside _ _ => exact .group opens (inside.balanced separates)
  | factor _ whole => exact whole rfl
  | @multiply left linked tier right link leftTokens rightTokens before names after
      leftShields rightShields =>
      have other : ¬ link.Names operator := by
        intro namesLooser
        rw [← names.unique namesLooser] at looser
        exact absurd (tier.symm.trans looser) (by decide)
      exact .append (before.balanced separates) (leftShields looser)
        (.append (.singleton (depthChange_of_names names)) (.singleton other)
          (rightShields rfl))
  | product _ _ => simp [Level.admits] at looser
  | add _ _ _ _ _ => simp [Level.admits] at looser

/-- The tokens cannot be split at a looser operator. -/
theorem not_split (separates : SeparatesOperands read) (derived : Derives read tree tokens)
    {operator : Operator} (looser : level.admits operator = false)
    {before after : List Token} {link : Token} (balanced : Balanced before)
    (names : link.Names operator) (split : tokens = before ++ link :: after) : False := by
  have shielded := derived.shields separates looser before link after split names
  rw [balanced.depth_eq_zero] at shielded
  exact absurd shielded (by decide)

/-- Two trees that derive the same tokens are the same tree. -/
theorem unique (separates : SeparatesOperands read) {other : Tree α level}
    {otherTokens : List Token} (derived : Derives read tree tokens)
    (derivedToo : Derives read other otherTokens) (same : tokens = otherTokens) :
    tree = other := by
  induction derived generalizing otherTokens with
  | @operand token leaf reads =>
      cases derivedToo with
      | operand readsToo =>
          injection same with sameToken
          rw [sameToken, readsToo] at reads
          injection reads with sameLeaf
          rw [sameLeaf]
      | group opens _ _ =>
          injection same with sameToken sameRest
          exact absurd sameRest (by simp)
  | group opens _ closes inductionHypothesis =>
      cases derivedToo with
      | operand readsToo =>
          injection same with sameToken sameRest
          exact absurd sameRest (by simp)
      | group opensToo insideToo closesToo =>
          injection same with _ sameRest
          rw [inductionHypothesis insideToo (List.append_inj' sameRest rfl).1]
  | factor derivedFactor inductionHypothesis =>
      cases derivedToo with
      | factor wholeToo => rw [inductionHypothesis wholeToo same]
      | multiply beforeToo namesToo afterToo =>
          exact (derivedFactor.not_split separates rfl (beforeToo.balanced separates)
            namesToo same).elim
  | multiply before names after leftHypothesis rightHypothesis =>
      cases derivedToo with
      | factor wholeToo =>
          exact (wholeToo.not_split separates rfl (before.balanced separates)
            names same.symm).elim
      | multiply beforeToo namesToo afterToo =>
          obtain ⟨sameLeft, rfl, sameRight⟩ :=
            split_unique (before.balanced separates) (beforeToo.balanced separates)
              names namesToo (after.shields separates rfl) (afterToo.shields separates rfl) same
          rw [leftHypothesis beforeToo sameLeft, rightHypothesis afterToo sameRight]
  | product derivedProduct inductionHypothesis =>
      cases derivedToo with
      | product wholeToo => rw [inductionHypothesis wholeToo same]
      | @add _ _ tier _ _ _ _ beforeToo namesToo afterToo =>
          exact (derivedProduct.not_split separates tier (beforeToo.balanced separates)
            namesToo same).elim
  | @add _ _ tier _ _ _ _ before names after leftHypothesis rightHypothesis =>
      cases derivedToo with
      | product wholeToo =>
          exact (wholeToo.not_split separates tier (before.balanced separates)
            names same.symm).elim
      | @add _ _ tierToo _ _ _ _ beforeToo namesToo afterToo =>
          obtain ⟨sameLeft, rfl, sameRight⟩ :=
            split_unique (before.balanced separates) (beforeToo.balanced separates)
              names namesToo (after.shields separates tierToo) (afterToo.shields separates tier)
              same
          rw [leftHypothesis beforeToo sameLeft, rightHypothesis afterToo sameRight]

end Derives

end Reckoner.Grammar
