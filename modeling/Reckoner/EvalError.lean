import Reckoner.Text.Phrase
import Reckoner.Token.Basic

/-!
Contract: why an evaluation fails.

Each error is its cause, with the data that its message shows. The six kinds
of error fall into broader families, so that a caller can handle, say, every
arithmetic failure alike.

Owns: the causes, their messages, their kinds, and the families of each kind.

Does not own: when an error arises.
-/

namespace Reckoner

open Text (enclosed)

/-- What a position in a flat expression must hold. -/
inductive Expected where
  | number
  | operator
deriving DecidableEq, Repr

/-- Why parentheses do not pair. -/
inductive UnpairedParenthesis where
  | unmatchedClose (column : Int)
  | unmatchedOpen (column : Int)
deriving DecidableEq, Repr

/-- Why a statement with an assignment marker is no assignment. -/
inductive InvalidAssignment where
  /-- The marker is repeated, or nothing stands on one of its sides. -/
  | misplacedMarker (statement : String)
  /-- What stands before the marker is not a single identifier. -/
  | invalidTarget (target statement : String)
deriving DecidableEq, Repr

/-- Why tokens are not numbers separated by operators. -/
inductive MalformedExpression where
  | empty
  | unexpected (found : Token) (expected : Expected)
  | endsWithOperator (symbol : String) (column : Int)
deriving DecidableEq

/-- Why an evaluation fails. -/
inductive EvalError where
  /-- A look-up that belongs to no word of the expression has no column. -/
  | undefinedVariable (name : String) (column : Option Int)
  | invalidOperator (symbol : String)
  | divisionByZero (symbol : String)
  | mismatchedParentheses (cause : UnpairedParenthesis)
  | invalidAssignment (cause : InvalidAssignment)
  | malformedExpression (cause : MalformedExpression)
deriving DecidableEq

/-! ### Messages -/

def Expected.name : Expected → String
  | .number => "number"
  | .operator => "operator"

def UnpairedParenthesis.message : UnpairedParenthesis → String
  | .unmatchedClose column => "Unmatched ')' at column " ++ toString column
  | .unmatchedOpen column => "Unmatched '(' at column " ++ toString column

def InvalidAssignment.message : InvalidAssignment → String
  | .misplacedMarker statement => "Invalid assignment expression: " ++ statement
  | .invalidTarget target statement =>
      "Invalid assignment target " ++ enclosed target ++ " in: " ++ statement

def MalformedExpression.message : MalformedExpression → String
  | .empty => "Empty expression"
  | .unexpected found expected =>
      "Unexpected " ++ enclosed found.lexeme.plainText ++ " at column " ++
        toString found.column ++ ", expected " ++ expected.name
  | .endsWithOperator symbol column =>
      "Expression ends with operator " ++ enclosed symbol ++ " at column " ++ toString column

def EvalError.message : EvalError → String
  | .undefinedVariable name none => "Variable " ++ enclosed name ++ " not defined"
  | .undefinedVariable name (some column) =>
      "Variable " ++ enclosed name ++ " not defined at column " ++ toString column
  | .invalidOperator symbol => "Invalid operator: " ++ symbol
  | .divisionByZero symbol => "Division by zero in " ++ enclosed symbol ++ " operation"
  | .mismatchedParentheses cause => cause.message
  | .invalidAssignment cause => cause.message
  | .malformedExpression cause => cause.message

/-! ### Kinds and families -/

/-- The kind of an error, without its data. -/
inductive ErrorKind where
  | undefinedVariable
  | invalidOperator
  | divisionByZero
  | mismatchedParentheses
  | invalidAssignment
  | malformedExpression
deriving DecidableEq, Repr

/-- A broad class of failures. -/
inductive ErrorFamily where
  | arithmetic
  | unknownName
  | illFormedText
  | unsuitableValue
  | zeroDivisor
deriving DecidableEq, Repr

/-- The families to which an error of the kind belongs. A zero divisor is also
an arithmetic failure. -/
def ErrorKind.families : ErrorKind → List ErrorFamily
  | .undefinedVariable => [.unknownName]
  | .invalidOperator => [.unsuitableValue]
  | .divisionByZero => [.arithmetic, .zeroDivisor]
  | .mismatchedParentheses | .invalidAssignment | .malformedExpression => [.illFormedText]

namespace EvalError

def kind : EvalError → ErrorKind
  | .undefinedVariable _ _ => .undefinedVariable
  | .invalidOperator _ => .invalidOperator
  | .divisionByZero _ => .divisionByZero
  | .mismatchedParentheses _ => .mismatchedParentheses
  | .invalidAssignment _ => .invalidAssignment
  | .malformedExpression _ => .malformedExpression

/-- The operator that an error is about. -/
def operator? : EvalError → Option String
  | .invalidOperator symbol | .divisionByZero symbol => some symbol
  | _ => none

end EvalError

/-- What a caller is told of an error. -/
structure ErrorReport where
  kind : ErrorKind
  message : String
  operator : Option String := none
deriving DecidableEq

def EvalError.report (error : EvalError) : ErrorReport where
  kind := error.kind
  message := error.message
  operator := error.operator?

end Reckoner
