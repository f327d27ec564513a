import Reckoner.Proofs.Assignment.Form
import Reckoner.Proofs.Evaluation.Columns
import Reckoner.Proofs.Evaluation.Locality
import Reckoner.Proofs.Reduction.Divisors
import Reckoner.Proofs.Token.Rebuilding

/-!
Contract: a compound assignment is a plain one with its operator spelled out.

A compound assignment evaluates its source, reads its target, and applies its
operator at once. Spelled out, the target is read first, and the source is a
group behind the operator. Main statement: from a table that binds the target,
both have the same outcome and leave the same table, unless a step of the
source changes the target in between.

Owns: the words of both assignments, the value of an operator between a
variable and a group, and the comparison.

Does not own: sources that fail, or that assign.
-/

namespace Reckoner

open Statement (Form)
open Text (IsWord)

variable {target text : String} {operator : Operator} {source : List String}
  {table left : Table} {old value : Binary64}

/-! ### The value of an operator before a group -/

theorem Chain.value_pair (operator : Operator) (first second : Binary64) :
    (Chain.mk first [(operator, second)]).value = operator.apply first second := by
  cases tier : operator.isMultiplicative with
  | true =>
      rw [value, products_cons_of_multiplicative _ _ _ tier]
      cases operator.apply first second with
      | ok product => rfl
      | error error => rfl
  | false =>
      rw [value, products_cons_of_additive _ _ _ tier]
      change (operator.apply first second >>= fun subtotal => total subtotal []) = _
      cases operator.apply first second with
      | ok sum => rfl
      | error error => rfl

private theorem reduce_pair {first link last : Token} (firstIs : first.number? = some old)
    (names : link.Names operator) (lastIs : last.number? = some value) :
    reduce [first, link, last] = operator.apply old value := by
  have lastRead : Chain.ofTokens [last] = .ok ⟨value, []⟩ :=
    Chain.ofTokens_cons_eq_ok_iff.mpr ⟨value, [], lastIs, rfl, rfl⟩
  have linksRead : Chain.links [link, last] = .ok [(operator, value)] :=
    Chain.links_cons_eq_ok_iff.mpr ⟨operator, ⟨value, []⟩, names, lastRead, rfl⟩
  have read : Chain.ofTokens [first, link, last] = .ok ⟨old, [(operator, value)]⟩ :=
    Chain.ofTokens_cons_eq_ok_iff.mpr ⟨old, _, firstIs, linksRead, rfl⟩
  rw [reduce, read, ← Chain.value_pair operator old value]
  rfl

private theorem valueOfTokens_before_group {first link opening closing : Token} {inner : List Token}
    (firstIs : first.number? = some old) (names : link.Names operator) (opens : opening.Opens)
    (closes : closing.Closes) (evaluated : valueOfTokens inner = .ok value) :
    valueOfTokens (first :: link :: opening :: (inner ++ [closing])) =
      operator.apply old value := by
  obtain ⟨flat, flattened, reduced⟩ := bind_eq_ok_iff.mp evaluated
  have firstNotOpens : ¬ first.Opens := by
    intro firstOpens
    rw [Token.number?_of_opens firstOpens] at firstIs
    cases firstIs
  have firstNotCloses : ¬ first.Closes := by
    intro firstCloses
    rw [Token.number?_of_closes firstCloses] at firstIs
    cases firstIs
  have group : Collapses (opening :: (inner ++ [closing])) [⟨.number value, opening.column⟩] :=
    .group opens (flatten_eq_ok_iff.mp flattened) reduced closes .nil
  have whole : Collapses (first :: link :: opening :: (inner ++ [closing]))
      [first, link, ⟨.number value, opening.column⟩] :=
    .keep firstNotOpens firstNotCloses (group.keepOperator names)
  rw [valueOfTokens, whole.flatten_eq_ok]
  exact reduce_pair firstIs names rfl

/-! ### The expression spelled out -/

/-- The words of a target, an operator, and a source between parentheses. -/
def spelledOut (target : String) (operator : Operator) (source : List String) : List String :=
  target :: operator.symbol :: "(" :: (source ++ [")"])

private theorem Lexeme.ofWord_symbol (operator : Operator) :
    ofWord operator.symbol = .operator operator.symbol := by
  cases operator <;> decide +kernel

/-- The target is read before the source, and its operator is applied last. -/
theorem runOn_evaluateWords_spelledOut (identifier : isIdentifier target.toList = true)
    (bound : table.get? target = some old)
    (evaluated : (evaluateWords source).runOn table = (.ok value, left)) :
    (evaluateWords (spelledOut target operator source)).runOn table =
      (operator.apply old value, left) := by
  obtain ⟨sourceResolved, between, sourceRan, reduced⟩ := EvalM.runOn_bind_eq_ok_iff.mp evaluated
  obtain ⟨hasValue, rfl⟩ := Prod.mk.inj reduced
  have spelled := Token.map_lexeme_ofWords (spelledOut target operator source)
  rw [spelledOut, List.map_cons, List.map_cons, List.map_cons, List.map_append,
    ← Token.map_lexeme_ofWords source] at spelled
  obtain ⟨first, rest, tokens, firstIs, restIs⟩ := List.map_eq_cons_iff.mp spelled
  obtain ⟨link, grouped, rfl, linkIs, groupedIs⟩ := List.map_eq_cons_iff.mp restIs
  obtain ⟨opening, closed, rfl, openingIs, closedIs⟩ := List.map_eq_cons_iff.mp groupedIs
  obtain ⟨inner, last, rfl, innerIs, lastIs⟩ := List.map_eq_append_iff.mp closedIs
  obtain ⟨closing, rfl, closingIs⟩ := List.map_eq_singleton_iff.mp lastIs
  have names : link.Names operator := linkIs.trans (Lexeme.ofWord_symbol operator)
  have opens : opening.Opens := ⟨"(", openingIs⟩
  have closes : closing.Closes := ⟨")", closingIs⟩
  obtain ⟨innerResolved, innerRan, alike⟩ := runOn_resolveAll_of_lexemes innerIs sourceRan
  have firstRan : first.resolve.runOn table = (.ok ⟨.number old, first.column⟩, table) := by
    have asks : Operand.ofToken? first = some (.variable target first.column) := by
      rw [Operand.ofToken?, firstIs, Lexeme.ofWord_of_isIdentifier identifier]
    have found : (lookUp target first.column).runOn table = (.ok old, table) :=
      runOn_lookUp_eq_ok_iff.mpr ⟨bound, rfl⟩
    exact Token.resolve_eq_ok_iff.mpr (.inr ⟨_, old, asks, found, rfl⟩)
  have closingRan : (resolveAll [closing]).runOn between = (.ok [closing], between) :=
    runOn_resolveAll_keep (Operand.ofToken?_of_closes closes) rfl
  have groupRan := runOn_resolveAll_keep (Operand.ofToken?_of_opens opens)
    (runOn_resolveAll_append closingRan innerRan)
  have linkRan := runOn_resolveAll_keep (Operand.ofToken?_of_names names) groupRan
  have ran := runOn_resolveAll_cons_eq_ok_iff.mpr ⟨_, _, _, firstRan, linkRan, rfl⟩
  rw [evaluateWords, spelledOut, tokens, EvalM.runOn_bind_of_ok ran, EvalM.runOn_ofExcept,
    valueOfTokens_before_group rfl names opens closes (valueOfTokens_of_lexemes alike hasValue)]

/-! ### The two assignments -/

/-- What is left when a target is assigned an outcome: an error binds nothing. -/
def assigned (target : String) (table : Table) :
    Except EvalError Binary64 → Except EvalError Binary64 × Table
  | .ok result => (.ok result, table.set target result)
  | .error error => (.error error, table)

private theorem get?_of_runOn_evaluateWords {name : String} (spared : name ∉ changedBy source)
    (ran : (evaluateWords source).runOn table = (.ok value, left)) :
    left.get? name = table.get? name := by
  have touches : EvalM.Touches (mentionedBy source) (changedBy source) (evaluateWords source) :=
    evaluateWords_touches subset_rfl subset_rfl
  have kept := touches.keeps table spared
  rwa [ran] at kept

private theorem runOn_execute_compound (bound : table.get? target = some old)
    (spared : target ∉ changedBy source)
    (evaluated : (evaluateWords source).runOn table = (.ok value, left)) :
    (Statement.assignment target (.compound operator) (.expression source)).execute.runOn table =
      assigned target left (operator.apply old value) := by
  have kept : left.get? target = some old :=
    (get?_of_runOn_evaluateWords spared evaluated).trans bound
  have found : (lookUp target).runOn left = (.ok old, left) :=
    runOn_lookUp_eq_ok_iff.mpr ⟨kept, rfl⟩
  have combined : ((Marker.compound operator).combine target value).runOn left =
      (operator.apply old value, left) := EvalM.runOn_bind_of_ok found
  have sourceRan : (Statement.expression source).execute.runOn table = (.ok value, left) :=
    evaluated
  rw [Statement.runOn_execute_assignment, sourceRan]
  dsimp only
  rw [combined]
  cases operator.apply old value with
  | ok result => rfl
  | error error => rfl

private theorem runOn_execute_spelledOut (identifier : isIdentifier target.toList = true)
    (bound : table.get? target = some old)
    (evaluated : (evaluateWords source).runOn table = (.ok value, left)) :
    (Statement.assignment target .plain
      (.expression (spelledOut target operator source))).execute.runOn table =
        assigned target left (operator.apply old value) := by
  have grouped : (Statement.expression (spelledOut target operator source)).execute.runOn table =
      (operator.apply old value, left) :=
    runOn_evaluateWords_spelledOut identifier bound evaluated
  rw [Statement.runOn_execute_assignment, grouped]
  cases operator.apply old value with
  | ok result => rfl
  | error error => rfl

/-! ### The texts -/

theorem Statement.ofWords_assignment {marker : Marker}
    (identifier : isIdentifier target.toList = true) (nonempty : source ≠ [])
    (unmarked : ∀ marker : Marker, marker.spelling ∉ source) :
    ofWords (target :: marker.spelling :: source) =
      .ok (.assignment target marker (.expression source)) := by
  have assigns : Form.ofWords (target :: marker.spelling :: source) =
      .assignment target marker source :=
    Form.ofWords_eq_assignment_iff.mpr
      ⟨rfl, identifier, nonempty, fun other present => absurd present (unmarked other)⟩
  rw [ofWords_eq, assigns]
  dsimp only
  rw [ofWords_of_unmarked unmarked]
  rfl

private theorem Marker.spelling_ne_symbol (marker : Marker) (operator : Operator) :
    marker.spelling ≠ operator.symbol := by
  cases marker with
  | plain => cases operator <;> decide
  | compound other => cases other <;> cases operator <;> decide

theorem Marker.spelling_ne_parenthesis (marker : Marker) :
    marker.spelling ≠ "(" ∧ marker.spelling ≠ ")" := by
  cases marker with
  | plain => decide
  | compound operator => cases operator <;> decide

private theorem unmarked_spelledOut (identifier : isIdentifier target.toList = true)
    (unmarked : ∀ marker : Marker, marker.spelling ∉ source) (marker : Marker) :
    marker.spelling ∉ spelledOut target operator source := by
  intro present
  rcases List.mem_cons.mp present with same | present
  · rw [← same, marker.spelling_not_identifier] at identifier
    cases identifier
  rcases List.mem_cons.mp present with same | present
  · exact marker.spelling_ne_symbol operator same
  rcases List.mem_cons.mp present with same | present
  · exact marker.spelling_ne_parenthesis.1 same
  rcases List.mem_append.mp present with present | present
  · exact unmarked marker present
  · exact marker.spelling_ne_parenthesis.2 (List.mem_singleton.mp present)

private theorem words_symbol (operator : Operator) :
    Text.words operator.symbol = [operator.symbol] := by
  cases operator <;> decide +kernel

private theorem Marker.words_spelling (marker : Marker) :
    Text.words marker.spelling = [marker.spelling] := by
  cases marker with
  | plain => decide +kernel
  | compound operator => cases operator <;> decide +kernel

theorem words_assignment {marker : Marker} (identifier : isIdentifier target.toList = true) :
    Text.words (target ++ " " ++ marker.spelling ++ " " ++ text) =
      target :: marker.spelling :: Text.words text := by
  rw [Text.words_append_space, Text.words_append_space,
    Text.words_eq_singleton (isWord_of_isIdentifier identifier), Marker.words_spelling,
    List.append_assoc, List.singleton_append, List.singleton_append]

private theorem words_compound (identifier : isIdentifier target.toList = true) :
    Text.words (target ++ " " ++ operator.symbol ++ "= " ++ text) =
      target :: (Marker.compound operator).spelling :: Text.words text := by
  have parted : target ++ " " ++ operator.symbol ++ "= " ++ text =
      target ++ " " ++ (Marker.compound operator).spelling ++ " " ++ text := by
    rw [show "= " = "=" ++ " " from rfl]
    simp only [Marker.spelling, String.append_assoc, -String.reduceAppend]
  rw [parted, words_assignment identifier]

private theorem words_plain (identifier : isIdentifier target.toList = true) :
    Text.words (target ++ " = " ++ target ++ " " ++ operator.symbol ++ " ( " ++ text ++ " )") =
      target :: Marker.plain.spelling :: spelledOut target operator (Text.words text) := by
  have parted :
      target ++ " = " ++ target ++ " " ++ operator.symbol ++ " ( " ++ text ++ " )" =
        target ++ " " ++ Marker.plain.spelling ++ " " ++ target ++ " " ++ operator.symbol ++ " " ++
          "(" ++ " " ++ text ++ " " ++ ")" := by
    rw [show " = " = " " ++ ("=" ++ " ") from rfl, show " ( " = " " ++ ("(" ++ " ") from rfl,
      show " )" = " " ++ ")" from rfl]
    simp only [Marker.spelling, String.append_assoc, -String.reduceAppend]
  have opens : Text.words "(" = ["("] := by decide +kernel
  have closes : Text.words ")" = [")"] := by decide +kernel
  simp only [parted, Text.words_append_space,
    Text.words_eq_singleton (isWord_of_isIdentifier identifier), Marker.words_spelling,
    words_symbol, opens, closes]
  simp [spelledOut]

theorem evaluate_compound (identifier : isIdentifier target.toList = true)
    (nonempty : Text.words text ≠ [])
    (unmarked : ∀ marker : Marker, marker.spelling ∉ Text.words text) :
    evaluate (target ++ " " ++ operator.symbol ++ "= " ++ text) =
      (Statement.assignment target (.compound operator)
        (.expression (Text.words text))).execute := by
  refine evaluate_of_ofWords ?_
  rw [words_compound identifier, Statement.ofWords_assignment identifier nonempty unmarked]

theorem evaluate_plain (identifier : isIdentifier target.toList = true)
    (unmarked : ∀ marker : Marker, marker.spelling ∉ Text.words text) :
    evaluate (target ++ " = " ++ target ++ " " ++ operator.symbol ++ " ( " ++ text ++ " )") =
      (Statement.assignment target .plain
        (.expression (spelledOut target operator (Text.words text)))).execute := by
  refine evaluate_of_ofWords ?_
  rw [words_plain identifier]
  exact Statement.ofWords_assignment identifier (List.cons_ne_nil _ _)
    (unmarked_spelledOut identifier unmarked)

/-- **A compound assignment is the plain one with its operator spelled out.**
Both bind the result of the operator on the old value of the target and the
value of the source, or fail alike where the operator refuses that value. The
table that the source leaves stays in either case. -/
theorem runOn_evaluate_compound (target text : String) (operator : Operator)
    (table left : Table) (old value : Binary64)
    (identifier : isIdentifier target.toList = true) (bound : table.get? target = some old)
    (unmarked : ∀ marker : Marker, marker.spelling ∉ Text.words text)
    (spared : target ∉ changedBy (Text.words text))
    (evaluated : (evaluate text).runOn table = (.ok value, left)) :
    (evaluate (target ++ " " ++ operator.symbol ++ "= " ++ text)).runOn table =
        (evaluate (target ++ " = " ++ target ++ " " ++ operator.symbol ++ " ( " ++ text ++
          " )")).runOn table ∧
      left.get? target = some old ∧
      ((∃ result, operator.apply old value = .ok result ∧
          (evaluate (target ++ " " ++ operator.symbol ++ "= " ++ text)).runOn table =
            (.ok result, left.set target result)) ∨
        operator.Refuses value ∧
          (evaluate (target ++ " " ++ operator.symbol ++ "= " ++ text)).runOn table =
            (.error (.divisionByZero operator.symbol), left)) := by
  have ran : (evaluateWords (Text.words text)).runOn table = (.ok value, left) := by
    rwa [evaluate_of_unmarked unmarked] at evaluated
  have nonempty : Text.words text ≠ [] := by
    intro none
    rw [none] at ran
    cases ran
  rw [evaluate_compound identifier nonempty unmarked, evaluate_plain identifier unmarked,
    runOn_execute_compound bound spared ran, runOn_execute_spelledOut identifier bound ran]
  refine ⟨rfl, (get?_of_runOn_evaluateWords spared ran).trans bound, ?_⟩
  by_cases refuses : operator.Refuses value
  · rw [Operator.apply_of_refuses refuses]
    exact .inr ⟨refuses, rfl⟩
  · obtain ⟨result, applied⟩ := Operator.exists_apply_eq_ok refuses old
    rw [applied]
    exact .inl ⟨result, rfl, rfl⟩

/-- The source reads the target, changes another variable, and comes to zero. -/
theorem runOn_evaluate_compound_of_zero :
    ∃ table left : Table,
      table.get? "x" = some (.ofNat 3) ∧ table.get? "y" = some (.ofNat 2) ∧
      isIdentifier "x".toList = true ∧
      (∀ marker : Marker, marker.spelling ∉ Text.words "( x - x ) * y--") ∧
      "x" ∉ changedBy (Text.words "( x - x ) * y--") ∧
      (evaluate "( x - x ) * y--").runOn table = (.ok .zero, left) ∧
      (evaluate "x /= ( x - x ) * y--").runOn table =
        (evaluate "x = x / ( ( x - x ) * y-- )").runOn table ∧
      (evaluate "x /= ( x - x ) * y--").runOn table = (.error (.divisionByZero "/"), left) ∧
      left.get? "x" = some (.ofNat 3) ∧ left.get? "y" = some .one := by
  let started : Table := (∅ : Table).set "x" (.ofNat 3)
  have unmarked : ∀ marker : Marker, marker.spelling ∉ Text.words "( x - x ) * y--" :=
    Marker.firstIn?_eq_none_iff.mp (by decide +kernel)
  have spared : "x" ∉ changedBy (Text.words "( x - x ) * y--") := by decide +kernel
  have evaluated : (evaluate "( x - x ) * y--").runOn (started.set "y" (.ofNat 2)) =
      (.ok .zero, started.set "y" .one) := by decide +kernel
  have refuses : Operator.divide.Refuses .zero := ⟨.inl rfl, by decide +kernel⟩
  obtain ⟨same, kept, ⟨_, applied, _⟩ | ⟨_, fails⟩⟩ :=
    runOn_evaluate_compound "x" "( x - x ) * y--" .divide _ _ (.ofNat 3) .zero (by decide)
      (by decide +kernel) unmarked spared evaluated
  · rw [Operator.apply_of_refuses refuses] at applied
    cases applied
  · exact ⟨_, _, by decide +kernel, by decide +kernel, by decide, unmarked, spared, evaluated,
      same, fails, kept, by decide +kernel⟩

end Reckoner
