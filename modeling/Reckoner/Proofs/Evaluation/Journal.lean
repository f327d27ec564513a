import Reckoner.Proofs.Assignment.Growth

/-!
Contract: what an evaluation stores, in order.

A step stores the new value of its variable, and an assignment stores its result
under its target; nothing else is stored. Main statement: every evaluation
leaves the table that was there with its stores made, one after the other, also
where it fails.

Owns: the stores of tokens, statements, texts and lists of texts, and what a row
of stores does to look-ups.

Does not own: stores from outside of an evaluation.
-/

namespace Reckoner

variable {α β : Type}

/-! ### Stores -/

namespace Table

/-- The table after values are stored in it, one after the other. -/
def storeAll (table : Table) (stores : List (String × Binary64)) : Table :=
  stores.foldl (fun table (name, value) => table.set name value) table

theorem storeAll_append (table : Table) (first second : List (String × Binary64)) :
    table.storeAll (first ++ second) = (table.storeAll first).storeAll second :=
  List.foldl_append

/-- A name has the last value stored under it, and otherwise the one it had. -/
theorem get?_storeAll (stores : List (String × Binary64)) (name : String) :
    ∀ table : Table,
      (table.storeAll stores).get? name = (stores.reverse.lookup name).or (table.get? name) := by
  induction stores with
  | nil => exact fun table => rfl
  | cons store later inductionHypothesis =>
      obtain ⟨other, value⟩ := store
      intro table
      have stored : table.storeAll ((other, value) :: later) =
          (table.set other value).storeAll later := rfl
      rw [stored, inductionHypothesis, get?_set, List.reverse_cons, List.lookup_append,
        Option.or_assoc]
      by_cases same : name = other
      · rw [if_pos same, same, Pairs.lookup_cons_self]
        rfl
      · rw [if_neg same, Pairs.lookup_cons_of_ne same]
        rfl

end Table

/-- What follows a computation without storing anything leaves its table. -/
theorem EvalM.runOn_bind_snd {first : EvalM α} {next : α → EvalM β}
    (keeps : ∀ value left, ((next value).runOn left).2 = left) (table : Table) :
    ((first >>= next).runOn table).2 = (first.runOn table).2 := by
  rw [runOn_bind]
  obtain ⟨outcome, left⟩ := first.runOn table
  cases outcome with
  | ok value => exact keeps value left
  | error error => rfl

/-! ### Tokens -/

/-- A step stores the new value of its variable, if that is bound. -/
def Token.stores (token : Token) (table : Table) : List (String × Binary64) :=
  match token.lexeme with
  | .step name direction _ =>
      match table.get? name with
      | some old => [(name, direction.apply old)]
      | none => []
  | _ => []

/-- The stores of tokens, up to the first whose variable is not bound. -/
def storesOfTokens : List Token → Table → List (String × Binary64)
  | [], _ => []
  | token :: rest, table =>
      if table.binds token then
        token.stores table ++ storesOfTokens rest (table.storeAll (token.stores table))
      else []

theorem Token.runOn_resolve_snd (token : Token) (table : Table) :
    (token.resolve.runOn table).2 = table.storeAll (token.stores table) := by
  obtain ⟨lexeme, column⟩ := token
  cases lexeme with
  | identifier name =>
      have looked : ((lookUp name column).runOn table).2 = table := by
        rw [runOn_lookUp]
        cases table.get? name with
        | some value => rfl
        | none => rfl
      exact (EvalM.runOn_bind_snd (fun _ _ => rfl) table).trans looked
  | step name direction placement =>
      cases bound : table.get? name with
      | none =>
          have missing : (lookUp name column).runOn table =
              (.error (.undefinedVariable name column), table) := by
            rw [runOn_lookUp, bound]
          simp only [stores, bound]
          rw [resolve, EvalM.runOn_bind_of_error missing]
          rfl
      | some old =>
          have found : (lookUp name column).runOn table = (.ok old, table) := by
            rw [runOn_lookUp, bound]
          simp only [stores, bound]
          rw [resolve, EvalM.runOn_bind_of_ok found]
          cases placement with
          | before => rfl
          | after => rfl
  | _ => rfl

theorem runOn_resolveAll_snd (tokens : List Token) :
    ∀ table : Table,
      ((resolveAll tokens).runOn table).2 = table.storeAll (storesOfTokens tokens table) := by
  induction tokens with
  | nil => exact fun table => rfl
  | cons token rest inductionHypothesis =>
      intro table
      have stepped := token.runOn_resolve_snd table
      cases bound : table.binds token with
      | true =>
          obtain ⟨resolved, left, ran, _⟩ := Token.runOn_resolve_of_binds bound
          rw [ran] at stepped
          rw [storesOfTokens, if_pos bound, Table.storeAll_append, ← stepped,
            ← inductionHypothesis, resolveAll, EvalM.runOn_bind_of_ok ran]
          exact EvalM.runOn_bind_snd (fun _ _ => rfl) left
      | false =>
          obtain ⟨name, _, fails⟩ := Token.runOn_resolve_of_not_binds bound
          rw [storesOfTokens, bound, resolveAll, EvalM.runOn_bind_of_error fails]
          rfl

/-! ### Statements -/

/-- The stores of a statement. An assignment that succeeds stores the value that
it returns, after all that its source stores. -/
def Statement.stores : Statement → Table → List (String × Binary64)
  | .expression words, table => storesOfTokens (Token.ofWords words) table
  | .assignment target marker source, table =>
      source.stores table ++
        match ((Statement.assignment target marker source).execute.runOn table).1 with
        | .ok result => [(target, result)]
        | .error _ => []

theorem Statement.runOn_execute_snd (statement : Statement) (table : Table) :
    (statement.execute.runOn table).2 = table.storeAll (statement.stores table) := by
  induction statement with
  | expression words =>
      exact (EvalM.runOn_bind_snd (fun _ _ => rfl) table).trans (runOn_resolveAll_snd _ table)
  | assignment target marker source inductionHypothesis =>
      rw [stores, Table.storeAll_append, ← inductionHypothesis, runOn_execute_assignment]
      obtain ⟨outcome, left⟩ := source.execute.runOn table
      cases outcome with
      | error error => rfl
      | ok value =>
          dsimp only
          have unchanged := marker.runOn_combine_snd target value left
          generalize (marker.combine target value).runOn left = run at unchanged
          obtain ⟨combined, after⟩ := run
          cases unchanged
          cases combined with
          | error error => rfl
          | ok result => rfl

/-- The stores of a text. A text that is no statement stores nothing. -/
def Text.stores (text : String) (table : Table) : List (String × Binary64) :=
  match Statement.ofText text with
  | .ok statement => statement.stores table
  | .error _ => []

/-- **An evaluation leaves the table with its stores made.** -/
theorem runOn_evaluate_snd (text : String) (table : Table) :
    ((evaluate text).runOn table).2 = table.storeAll (Text.stores text table) := by
  rw [runOn_evaluate, Text.stores]
  cases Statement.ofText text with
  | ok statement => exact statement.runOn_execute_snd table
  | error error => rfl

/-- The stores of several texts, up to the first that fails. -/
def storesOfTexts : List String → Table → List (String × Binary64)
  | [], _ => []
  | text :: rest, table =>
      if (Text.trim text).isEmpty then storesOfTexts rest table
      else
        let stored := Text.stores (Text.trim text) table
        match ((evaluate (Text.trim text)).runOn table).1 with
        | .ok _ => stored ++ storesOfTexts rest (table.storeAll stored)
        | .error _ => stored

theorem runOn_evaluateAll_snd (texts : List String) :
    ∀ table : Table,
      ((evaluateAll texts).runOn table).2 = table.storeAll (storesOfTexts texts table) := by
  induction texts with
  | nil => exact fun table => rfl
  | cons text rest inductionHypothesis =>
      intro table
      rw [evaluateAll_cons, storesOfTexts]
      by_cases blank : (Text.trim text).isEmpty = true
      · rw [if_pos blank, if_pos blank, inductionHypothesis]
      · rw [if_neg blank, if_neg blank]
        dsimp only
        have left := runOn_evaluate_snd (Text.trim text) table
        cases evaluated : (evaluate (Text.trim text)).runOn table with
        | mk outcome after =>
            rw [evaluated] at left
            cases outcome with
            | ok value =>
                rw [EvalM.runOn_bind_of_ok evaluated, inductionHypothesis, Table.storeAll_append,
                  ← left]
            | error error => rw [EvalM.runOn_bind_of_error evaluated, ← left]

end Reckoner
