import Reckoner.Operator

/-!
Contract: flat expressions, numbers separated by operators.

A chain is a first number and then pairs of an operator and a number, so it
can be neither empty nor ill-formed. `Chain.ofTokens` reads tokens from left to
right and reports the first that is out of place; only when all are in place
does it report an operator at the end. The value of a chain takes its products
first and then its sums, both from left to right.

Owns: the type, its reading from tokens, and its value.

Does not own: parentheses and variables.
-/

namespace Reckoner

/-- Numbers separated by operators. -/
structure Chain where
  first : Binary64
  rest : List (Operator × Binary64)
deriving DecidableEq

namespace Chain

/-! ### Reading -/

/-- The number at a position where a number must stand. -/
def operand (token : Token) : Except EvalError Binary64 :=
  match token.lexeme with
  | .number value => .ok value
  | _ => .error (.malformedExpression (.unexpected token .number))

/-- The operator at a position where an operator must stand. -/
def operatorAt (token : Token) : Except EvalError Operator :=
  match token.lexeme with
  | .operator symbol =>
      match Operator.ofSymbol? symbol with
      | some operator => .ok operator
      | none => .error (.invalidOperator symbol)
  | _ => .error (.malformedExpression (.unexpected token .operator))

/-- The pairs of operator and number after the first number. -/
def links : List Token → Except EvalError (List (Operator × Binary64))
  | [] => .ok []
  | [last] => do
      let operator ← operatorAt last
      .error (.malformedExpression (.endsWithOperator operator.symbol last.column))
  | link :: next :: rest => do
      let operator ← operatorAt link
      let value ← operand next
      let remaining ← links rest
      return (operator, value) :: remaining

/-- The chain that the tokens spell. -/
def ofTokens : List Token → Except EvalError Chain
  | [] => .error (.malformedExpression .empty)
  | token :: rest => do
      let first ← operand token
      let remaining ← links rest
      return ⟨first, remaining⟩

/-! ### Value -/

/-- Applies every multiplicative operator, from left to right. What remains
are the additive ones between the products. -/
def products (first : Binary64) : List (Operator × Binary64) → Except EvalError Chain
  | [] => .ok ⟨first, []⟩
  | (operator, value) :: rest =>
      if operator.isMultiplicative then do
        let product ← operator.apply first value
        products product rest
      else do
        let remaining ← products value rest
        return ⟨first, (operator, remaining.first) :: remaining.rest⟩

/-- Applies every operator, from left to right. -/
def total (first : Binary64) : List (Operator × Binary64) → Except EvalError Binary64
  | [] => .ok first
  | (operator, value) :: rest => do
      let subtotal ← operator.apply first value
      total subtotal rest

/-- The value of a chain: its products first, and then their sum. -/
def value (chain : Chain) : Except EvalError Binary64 := do
  let sum ← products chain.first chain.rest
  total sum.first sum.rest

end Chain

/-- The value of tokens that spell a chain. -/
def reduce (tokens : List Token) : Except EvalError Binary64 := do
  let chain ← Chain.ofTokens tokens
  chain.value

end Reckoner
