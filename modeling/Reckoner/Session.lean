import Reckoner.Evaluation
import Reckoner.Table.Number

/-!
Contract: sessions, a table that outlives the evaluations made on it.

A session is used by binding a number to a name, and by evaluating one text or
several; it goes on after a use has failed. It may watch variables. A watched
variable is shown with the value that it has now, because binding a name again
changes its variable in place.

Owns: the type, the running of computations on it, its uses, and watching.

Does not own: what is computed.
-/

namespace Reckoner

/-- A table and the names that are watched, in the order of watching. -/
structure Session where
  table : Table := ∅
  watched : List String := []
deriving DecidableEq, Inhabited

/-- A use of a session. -/
inductive Use where
  | setNumber (name : String) (number : Number)
  | evaluate (text : String)
  | evaluateAll (texts : List String)
deriving DecidableEq

namespace Session

/-- The session that begins with the bindings of a mapping. -/
def ofNumbers (pairs : List (String × Number)) : Except NumberError Session := do
  let table ← Table.ofNumbers pairs
  return { table }

/-- Runs a computation on the table. What it has changed is kept where it fails. -/
def run {α : Type} (session : Session) (computation : EvalM α) :
    Except EvalError α × Session :=
  let (outcome, table) := computation.runOn session.table
  (outcome, { session with table })

/-- Binds a name to a number. -/
def setNumber (session : Session) (name : String) (number : Number) :
    Except NumberError Session := do
  let table ← session.table.setNumber name number
  return { session with table }

/-- The session that a use leaves, whether or not it fails. -/
def use (session : Session) : Use → Session
  | .setNumber name number =>
      match session.setNumber name number with
      | .ok bound => bound
      | .error _ => session
  | .evaluate text => (session.run (Reckoner.evaluate text)).2
  | .evaluateAll texts => (session.run (Reckoner.evaluateAll texts)).2

/-- The session that uses leave, one after the other. -/
def useAll (session : Session) (uses : List Use) : Session :=
  uses.foldl use session

/-- Begins to watch a variable, and shows it. A name without a value is not
watched. -/
def watch (session : Session) (name : String) : Except EvalError (Variable × Session) :=
  match session.table.get? name with
  | some value => .ok (⟨name, value⟩, { session with watched := session.watched ++ [name] })
  | none => .error (.undefinedVariable name none)

/-- The watched variables as they are now. -/
def watchedVariables (session : Session) : List Variable :=
  session.watched.filterMap fun name =>
    (session.table.get? name).map fun value => ⟨name, value⟩

end Session

end Reckoner
