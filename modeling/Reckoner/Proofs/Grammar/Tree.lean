import Reckoner.Grouping
import Reckoner.Proofs.Sequencing

/-!
Contract: the grammar of expressions, with its derivation trees.

A sum is a product, or a sum, an additive operator and a product. A product is
a factor, or a product, a multiplicative operator and a factor. A factor is an
operand, or a sum between parentheses. Both chains lean to the left.

Owns: the trees, the tokens that a tree derives, the walk over a tree, and the
value of a tree whose operands are numbers.

Does not own: unambiguity, and what operands other than numbers mean.
-/

namespace Reckoner

namespace Operator

theorem symbol_injective {left right : Operator} (same : left.symbol = right.symbol) :
    left = right := by
  revert same
  cases left <;> cases right <;> decide

@[simp] theorem ofSymbol?_symbol (operator : Operator) :
    ofSymbol? operator.symbol = some operator := by
  cases operator <;> decide

theorem symbol_of_ofSymbol? {symbol : String} {operator : Operator}
    (found : ofSymbol? symbol = some operator) : operator.symbol = symbol := by
  have holds := List.find?_some found
  simpa using holds

end Operator

theorem calculate_symbol (operator : Operator) (left right : Binary64) :
    calculate left right operator.symbol = operator.apply left right := by
  rw [calculate, Operator.ofSymbol?_symbol]

namespace Token

def Opens (token : Token) : Prop :=
  ∃ spelling, token.lexeme = .openParen spelling

def Closes (token : Token) : Prop :=
  ∃ spelling, token.lexeme = .closeParen spelling

theorem Opens.not_closes {token : Token} (opens : token.Opens) : ¬ token.Closes := by
  obtain ⟨spelling, same⟩ := opens
  rintro ⟨other, sameToo⟩
  rw [same] at sameToo
  cases sameToo

/-- The token is the given operator. -/
def Names (token : Token) (operator : Operator) : Prop :=
  token.lexeme = .operator operator.symbol

theorem Names.not_opens {token : Token} {operator : Operator} (names : token.Names operator) :
    ¬ token.Opens := by
  rintro ⟨spelling, same⟩
  cases names.symm.trans same

theorem Names.not_closes {token : Token} {operator : Operator} (names : token.Names operator) :
    ¬ token.Closes := by
  rintro ⟨spelling, same⟩
  cases names.symm.trans same

theorem Names.unique {token : Token} {operator other : Operator}
    (names : token.Names operator) (namesOther : token.Names other) : operator = other := by
  have same : Lexeme.operator operator.symbol = .operator other.symbol :=
    Eq.trans (Eq.symm names) namesOther
  injection same with sameSymbol
  exact Operator.symbol_injective sameSymbol

def number? (token : Token) : Option Binary64 :=
  match token.lexeme with
  | .number value => some value
  | _ => none

theorem number?_of_opens {token : Token} (opens : token.Opens) : token.number? = none := by
  obtain ⟨spelling, same⟩ := opens
  simp only [number?, same]

theorem number?_of_closes {token : Token} (closes : token.Closes) : token.number? = none := by
  obtain ⟨spelling, same⟩ := closes
  simp only [number?, same]

theorem number?_of_names {token : Token} {operator : Operator}
    (names : token.Names operator) : token.number? = none := by
  simp only [number?, show token.lexeme = _ from names]

end Token

namespace Grammar

/-- The categories of the grammar, from the loosest to the tightest. -/
inductive Level where
  | sum
  | product
  | factor
deriving DecidableEq

/-- The derivation trees of a category. There is one constructor for each
production, and an operator can only stand in its own tier. -/
inductive Tree (α : Type) : Level → Type where
  | operand (leaf : α) : Tree α .factor
  | group (inner : Tree α .sum) : Tree α .factor
  | factor (only : Tree α .factor) : Tree α .product
  | multiply (left : Tree α .product) (operator : Operator)
      (tier : operator.isMultiplicative = true) (right : Tree α .factor) : Tree α .product
  | product (only : Tree α .product) : Tree α .sum
  | add (left : Tree α .sum) (operator : Operator)
      (tier : operator.isMultiplicative = false) (right : Tree α .product) : Tree α .sum

namespace Tree

variable {α β : Type} {m : Type → Type} [Monad m]

/-- Walks over a tree. The left operand of an operator is visited before the
right one, and the operator is applied last. -/
def walk (visit : α → m Binary64) (apply : Operator → Binary64 → Binary64 → m Binary64) :
    {level : Level} → Tree α level → m Binary64
  | _, .operand leaf => visit leaf
  | _, .group inner => inner.walk visit apply
  | _, .factor only => only.walk visit apply
  | _, .multiply left operator _ right => do
      let leftValue ← left.walk visit apply
      let rightValue ← right.walk visit apply
      apply operator leftValue rightValue
  | _, .product only => only.walk visit apply
  | _, .add left operator _ right => do
      let leftValue ← left.walk visit apply
      let rightValue ← right.walk visit apply
      apply operator leftValue rightValue

/-- The value of a tree of numbers. -/
def value {level : Level} (tree : Tree Binary64 level) : Except EvalError Binary64 :=
  tree.walk (fun number => .ok number)
    fun operator left right => calculate left right operator.symbol

variable {left : Tree Binary64 .product} {right : Tree Binary64 .factor}
  {operator : Operator} {result : Binary64}

theorem value_multiply_eq_ok_iff {tier : operator.isMultiplicative = true} :
    (multiply left operator tier right).value = .ok result ↔
      ∃ leftValue rightValue, left.value = .ok leftValue ∧ right.value = .ok rightValue ∧
        operator.apply leftValue rightValue = .ok result := by
  simp only [value, walk, calculate_symbol, bind_bind_eq_ok_iff]

theorem value_add_eq_ok_iff {left : Tree Binary64 .sum} {right : Tree Binary64 .product}
    {tier : operator.isMultiplicative = false} :
    (add left operator tier right).value = .ok result ↔
      ∃ leftValue rightValue, left.value = .ok leftValue ∧ right.value = .ok rightValue ∧
        operator.apply leftValue rightValue = .ok result := by
  simp only [value, walk, calculate_symbol, bind_bind_eq_ok_iff]

end Tree

/-- The tokens that a tree derives. The reading says which tokens are operands. -/
inductive Derives {α : Type} (read : Token → Option α) :
    {level : Level} → Tree α level → List Token → Prop where
  | operand {token : Token} {leaf : α} (reads : read token = some leaf) :
      Derives read (.operand leaf) [token]
  | group {inner : Tree α .sum} {opening closing : Token} {tokens : List Token}
      (opens : opening.Opens) (inside : Derives read inner tokens) (closes : closing.Closes) :
      Derives read (.group inner) (opening :: (tokens ++ [closing]))
  | factor {only : Tree α .factor} {tokens : List Token} (whole : Derives read only tokens) :
      Derives read (.factor only) tokens
  | multiply {left : Tree α .product} {operator : Operator}
      {tier : operator.isMultiplicative = true} {right : Tree α .factor}
      {link : Token} {leftTokens rightTokens : List Token}
      (before : Derives read left leftTokens) (names : link.Names operator)
      (after : Derives read right rightTokens) :
      Derives read (.multiply left operator tier right) (leftTokens ++ link :: rightTokens)
  | product {only : Tree α .product} {tokens : List Token} (whole : Derives read only tokens) :
      Derives read (.product only) tokens
  | add {left : Tree α .sum} {operator : Operator}
      {tier : operator.isMultiplicative = false} {right : Tree α .product}
      {link : Token} {leftTokens rightTokens : List Token}
      (before : Derives read left leftTokens) (names : link.Names operator)
      (after : Derives read right rightTokens) :
      Derives read (.add left operator tier right) (leftTokens ++ link :: rightTokens)

end Grammar

end Reckoner
