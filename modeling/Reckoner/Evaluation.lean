import Reckoner.Statement
import Reckoner.Table.Basic

/-!
Contract: evaluation of statements on a table of variables.

An expression is evaluated in two phases. First its variables and steps are
replaced by numbers, from left to right, and each step changes the table at
once. Then its groups and operators are reduced, which no longer touches the
table. An assignment evaluates its source, reads its target if its marker asks
for the old value, and binds the target last. What a failing evaluation has
changed stays changed.

Owns: the evaluation monad and the evaluation of tokens, statements and texts.

Does not own: sessions of several texts.
-/

namespace Reckoner

/-- Computations that read and change a table and may fail. The table is kept
where they fail. -/
abbrev EvalM := ExceptT EvalError (StateM Table)

namespace EvalM

/-- The outcome of a computation from a table, and the table it leaves. -/
def runOn {α : Type} (computation : EvalM α) (table : Table) :
    Except EvalError α × Table :=
  StateT.run (ExceptT.run computation) table

/-- A result that does not depend on the table. -/
def ofExcept {α : Type} (result : Except EvalError α) : EvalM α :=
  ExceptT.mk (pure result)

end EvalM

/-- The value of a variable. The column is that of the word that asks for it. -/
def lookUp (name : String) (column : Option Int := none) : EvalM Binary64 := do
  let table ← get
  match table.get? name with
  | some value => return value
  | none => throw (.undefinedVariable name column)

def assign (name : String) (value : Binary64) : EvalM Unit :=
  modify fun table => table.set name value

namespace Token

/-- Replaces an identifier by its value, and a step by the value that it
yields once it has changed its variable. -/
def resolve (token : Token) : EvalM Token :=
  match token.lexeme with
  | .identifier name => do
      let value ← lookUp name token.column
      return ⟨.number value, token.column⟩
  | .step name direction placement => do
      let old ← lookUp name token.column
      let new := direction.apply old
      assign name new
      match placement with
      | .before => return ⟨.number new, token.column⟩
      | .after => return ⟨.number old, token.column⟩
  | _ => return token

end Token

/-- Resolves tokens from left to right. -/
def resolveAll : List Token → EvalM (List Token)
  | [] => return []
  | token :: rest => do
      let resolved ← token.resolve
      let remaining ← resolveAll rest
      return resolved :: remaining

/-- The value of the words of an expression. -/
def evaluateWords (words : List String) : EvalM Binary64 := do
  let resolved ← resolveAll (Token.ofWords words)
  EvalM.ofExcept (valueOfTokens resolved)

namespace Marker

/-- The value that an assignment binds. A compound marker reads the target
only now, after the source has been evaluated. -/
def combine (marker : Marker) (target : String) (value : Binary64) : EvalM Binary64 :=
  match marker with
  | .plain => return value
  | .compound operator => do
      let current ← lookUp target
      EvalM.ofExcept (operator.apply current value)

end Marker

/-- The value of a statement, with its effects on the table. -/
def Statement.execute : Statement → EvalM Binary64
  | .expression words => evaluateWords words
  | .assignment target marker source => do
      let value ← source.execute
      let result ← marker.combine target value
      assign target result
      return result

/-- The value of a text. A text that is no statement fails before it has any
effect. -/
def evaluate (text : String) : EvalM Binary64 := do
  let statement ← EvalM.ofExcept (Statement.ofText text)
  statement.execute

/-- Evaluates the texts that are not blank, one after the other, up to the
first that fails. -/
def evaluateAll : List String → EvalM Unit
  | [] => return ()
  | text :: rest => do
      if !(Text.trim text).isEmpty then
        let _ ← evaluate (Text.trim text)
      evaluateAll rest

end Reckoner
