import Reckoner.Binary64.Arithmetic
import Reckoner.EvalError

/-!
Contract: the binary operators.

Owns: the five operators, their symbols, their two tiers, and what each does
to two numbers, the refusal of zero divisors included.

Does not own: the order in which the operators of an expression are applied.
-/

namespace Reckoner

inductive Operator where
  | multiply
  | divide
  | remainder
  | add
  | subtract
deriving DecidableEq, Repr

namespace Operator

def all : List Operator :=
  [.multiply, .divide, .remainder, .add, .subtract]

def symbol : Operator → String
  | .multiply => "*"
  | .divide => "/"
  | .remainder => "%"
  | .add => "+"
  | .subtract => "-"

/-- The operator with a symbol. -/
def ofSymbol? (symbol : String) : Option Operator :=
  all.find? fun operator => decide (operator.symbol = symbol)

/-- Products, quotients and remainders bind closer than sums and differences. -/
def isMultiplicative : Operator → Bool
  | .multiply | .divide | .remainder => true
  | .add | .subtract => false

/-- The result of the operator. Quotient and remainder refuse a divisor of
zero, whatever the dividend. -/
def apply (operator : Operator) (left right : Binary64) : Except EvalError Binary64 :=
  match operator with
  | .multiply => .ok (left.mul right)
  | .divide =>
      if right.isZero then .error (.divisionByZero operator.symbol) else .ok (left.div right)
  | .remainder =>
      if right.isZero then .error (.divisionByZero operator.symbol) else .ok (left.rem right)
  | .add => .ok (left.add right)
  | .subtract => .ok (left.sub right)

end Operator

/-- Applies the operator with the given symbol to two numbers. -/
def calculate (left right : Binary64) (symbol : String) : Except EvalError Binary64 :=
  match Operator.ofSymbol? symbol with
  | some operator => operator.apply left right
  | none => .error (.invalidOperator symbol)

end Reckoner
