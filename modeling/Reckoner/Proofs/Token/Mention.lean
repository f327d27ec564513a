import Reckoner.Token.Spelling

/-!
Contract: the variables that lexemes speak of.

An identifier asks for its variable, and a step asks for its variable and
changes it. No other lexeme has to do with variables.

Owns: the variable that a lexeme asks for, the variable that it changes, and
the amount of the change.

Does not own: what a table makes of these.
-/

namespace Reckoner

namespace Step

/-- What a step adds to its variable. -/
def amount : Step → Binary64
  | .up => .one
  | .down => Binary64.one.neg

theorem apply_eq_add_amount (step : Step) (value : Binary64) :
    step.apply value = value.add step.amount := by
  cases step <;> rfl

end Step

namespace Lexeme

/-- The variable that the lexeme asks for. -/
def name? : Lexeme → Option String
  | .identifier name => some name
  | .step name _ _ => some name
  | _ => none

/-- The variable that the lexeme changes. -/
def changed? : Lexeme → Option String
  | .step name _ _ => some name
  | _ => none

/-- What the lexeme adds to a variable, if it changes that one. -/
def amountFor? (name : String) : Lexeme → Option Binary64
  | .step other direction _ => if other = name then some direction.amount else none
  | _ => none

theorem name?_of_changed? {lexeme : Lexeme} {name : String}
    (changes : lexeme.changed? = some name) : lexeme.name? = some name := by
  cases lexeme with
  | step other direction placement => exact changes
  | _ => cases changes

theorem amountFor?_of_changed?_eq_none {lexeme : Lexeme} (changes : lexeme.changed? = none)
    (name : String) : lexeme.amountFor? name = none := by
  cases lexeme with
  | step other direction placement => cases changes
  | _ => rfl

end Lexeme

end Reckoner
