import Mathlib.Data.List.Basic
import Reckoner.Proofs.Grammar.Tree

/-!
Contract: computations with operations that are not defined everywhere.

The evaluator is total because its data leave no room for what cannot happen: a
chain has no ill-formed part, and an open group carries what stands before it.
The checked evaluator takes the same steps on plain lists, with operations that
may be applied where they have no result: the entry at a place of a list, the
top of a stack, the number of a text, the remainder of an infinite dividend.
There it ends in a fault, which is told apart from every error of an evaluation.

Owns: faults, the partial operations, and how a result of the evaluator looks
as a checked one.

Does not own: the checked evaluator.
-/

namespace Reckoner

/-- An operation was applied where it has no result. -/
inductive Fault where
  | absentPlace (place : Nat)
  | emptyList
  | absentWord (word : String)
  | unreadableNumber (text : String)
  | noNumber (found : Lexeme)
  | noOperator (found : Lexeme)
  | unknownOperator (symbol : String)
  /-- A quotient with a divisor of zero. -/
  | zeroDivisor
  /-- A remainder that is NaN although neither operand is. -/
  | outsideDomain
  /-- What a reduction leaves is not a single token. -/
  | notReduced (tokens : List Token)
  | nestedTooDeep
deriving DecidableEq

/-- Why a checked computation ends without a result. -/
inductive Stop where
  | error (error : EvalError)
  | fault (fault : Fault)
deriving DecidableEq

abbrev Checked := Except Stop

namespace Checked

variable {α β : Type}

def fault (fault : Fault) : Checked α :=
  .error (.fault fault)

def refuse (error : EvalError) : Checked α :=
  .error (.error error)

/-- A result of the evaluator as a checked one, which is no fault. -/
def report (result : Except EvalError α) : Checked α :=
  result.mapError Stop.error

theorem report_ok (value : α) : report (.ok value) = .ok value := rfl

theorem ok_bind (value : α) (next : α → Checked β) :
    (Except.ok value >>= next : Checked β) = next value := rfl

theorem report_bind (result : Except EvalError α) (next : α → Except EvalError β) :
    report (result >>= next) = report result >>= fun value => report (next value) := by
  cases result <;> rfl

/-! ### Lists -/

/-- The entry at a place. -/
def entryAt (list : List α) (place : Nat) : Checked α :=
  match list[place]? with
  | some entry => .ok entry
  | none => fault (.absentPlace place)

/-- The last entry. -/
def lastOf (list : List α) : Checked α :=
  match list.getLast? with
  | some entry => .ok entry
  | none => fault .emptyList

/-- The top of a stack, and what lies below it. -/
def pop : List α → Checked (α × List α)
  | top :: below => .ok (top, below)
  | [] => fault .emptyList

/-- The first place of a word. -/
def placeOf (word : String) (words : List String) : Checked Nat :=
  if word ∈ words then .ok (words.idxOf word) else fault (.absentWord word)

theorem entryAt_of_getElem? {list : List α} {place : Nat} {entry : α}
    (found : list[place]? = some entry) : entryAt list place = .ok entry := by
  rw [entryAt, found]

theorem entryAt_append (before : List α) (entry : α) (after : List α) :
    entryAt (before ++ entry :: after) before.length = .ok entry :=
  entryAt_of_getElem? (List.getElem?_append_right (Nat.le_refl _) |>.trans (by simp))

theorem lastOf_append (before : List α) (last : α) : lastOf (before ++ [last]) = .ok last := by
  rw [lastOf, List.getLast?_concat]

theorem placeOf_append {word : String} {before : List String} (first : word ∉ before)
    (after : List String) : placeOf word (before ++ word :: after) = .ok before.length := by
  rw [placeOf, if_pos (by simp), List.idxOf_append_of_notMem first, List.idxOf_cons_self,
    Nat.add_zero]

/-! ### Tokens -/

/-- The number of a token. -/
def numberOf (token : Token) : Checked Binary64 :=
  match token.lexeme with
  | .number value => .ok value
  | other => fault (.noNumber other)

/-- The symbol of an operator. -/
def symbolOf (token : Token) : Checked String :=
  match token.lexeme with
  | .operator symbol => .ok symbol
  | other => fault (.noOperator other)

theorem lexeme_of_number? {token : Token} {value : Binary64}
    (isNumber : token.number? = some value) : token.lexeme = .number value := by
  revert isNumber
  unfold Token.number?
  cases token.lexeme <;> simp

theorem numberOf_of_number? {token : Token} {value : Binary64}
    (isNumber : token.number? = some value) : numberOf token = .ok value := by
  rw [numberOf, lexeme_of_number? isNumber]

theorem symbolOf_of_names {token : Token} {operator : Operator} (names : token.Names operator) :
    symbolOf token = .ok operator.symbol := by
  rw [symbolOf, show token.lexeme = _ from names]

/-! ### Arithmetic -/

/-- The quotient by a divisor other than zero. -/
def quotient (left right : Binary64) : Checked Binary64 :=
  if right.isZero then fault .zeroDivisor else .ok (left.div right)

/-- The remainder where it has a value: NaN is one only if an operand is NaN. -/
def remainder (left right : Binary64) : Checked Binary64 :=
  if left.rem right = .nan ∧ left ≠ .nan ∧ right ≠ .nan then fault .outsideDomain
  else .ok (left.rem right)

/-- Applies the operator with a symbol. Quotient and remainder refuse a divisor of
zero, and the remainder of an infinite dividend is NaN without a division. -/
def calculate (left right : Binary64) (symbol : String) : Checked Binary64 :=
  if symbol = "*" then .ok (left.mul right)
  else if symbol = "/" then
    if right.isZero then refuse (.divisionByZero symbol) else quotient left right
  else if symbol = "%" then
    if right.isZero then refuse (.divisionByZero symbol)
    else
      match left with
      | .infinite _ => .ok .nan
      | _ => remainder left right
  else if symbol = "+" then .ok (left.add right)
  else if symbol = "-" then .ok (left.sub right)
  else fault (.unknownOperator symbol)

theorem quotient_eq {left right : Binary64} (nonzero : right.isZero = false) :
    quotient left right = .ok (left.div right) := by
  rw [quotient, nonzero]
  rfl

/-- A remainder of a finite dividend and a divisor other than zero is a number. -/
theorem remainder_eq {left right : Binary64} (nonzero : right.isZero = false)
    (bounded : ∀ negative, left ≠ .infinite negative) :
    remainder left right = .ok (left.rem right) := by
  refine if_neg ?_
  rintro ⟨isNan, leftNumber, rightNumber⟩
  cases left with
  | nan => exact leftNumber rfl
  | infinite negative => exact bounded negative rfl
  | finite negative magnitude =>
      cases right with
      | nan => exact rightNumber rfl
      | infinite other => cases isNan
      | finite other divisor =>
          have units : divisor.units ≠ 0 := ne_of_beq_false nonzero
          rw [Binary64.rem, if_neg units] at isNan
          cases isNan

/-- **A known operator is applied without a fault**, whatever the operands. -/
theorem calculate_symbol (left right : Binary64) (operator : Operator) :
    calculate left right operator.symbol = report (operator.apply left right) := by
  cases operator with
  | multiply => rfl
  | divide =>
      show (if right.isZero then refuse (.divisionByZero "/") else quotient left right) = _
      rw [Operator.apply]
      cases divisor : right.isZero with
      | true => rfl
      | false =>
          rw [quotient_eq divisor]
          rfl
  | remainder =>
      show (if right.isZero then refuse (.divisionByZero "%")
        else
          match left with
          | .infinite _ => .ok .nan
          | _ => remainder left right) = _
      rw [Operator.apply]
      cases divisor : right.isZero with
      | true => rfl
      | false =>
          cases left with
          | infinite negative => cases right <;> rfl
          | nan =>
              have bounded : ∀ negative, Binary64.nan ≠ .infinite negative := by simp
              exact remainder_eq divisor bounded
          | finite negative magnitude =>
              have bounded : ∀ other, Binary64.finite negative magnitude ≠ .infinite other := by
                simp
              exact remainder_eq divisor bounded
  | add => rfl
  | subtract => rfl

example : calculate .one .one "^" = fault (.unknownOperator "^") := by decide

end Checked

end Reckoner
