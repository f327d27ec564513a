import Reckoner.Proofs.Checked.Basic
import Reckoner.Proofs.Reduction.Chain

/-!
Contract: the checked reduction of flat expressions.

The tokens are looked at one by one, with their places, and must be numbers at
even places and known operators at odd ones. Then each tier of operators takes
one pass over the places of its operators: an operator of the tier is applied to
the last number that is kept and to the number behind it, any other is kept with
that number. Main statement: the reduction is that of chains, so no pass looks at
a place that is not there or meets an operator that it does not know, and one
number is left at the end.

Owns: the checked reduction, and what one pass makes of a chain.

Does not own: the value of a chain.
-/

namespace Reckoner

/-! ### One tier of a chain -/

namespace Chain

/-- Applies every operator of one tier, from left to right. What remains are the
other operators between the results. -/
def collapse (inTier : Operator → Bool) (first : Binary64) :
    List (Operator × Binary64) → Except EvalError Chain
  | [] => .ok ⟨first, []⟩
  | (operator, value) :: rest =>
      if inTier operator then do
        let result ← operator.apply first value
        collapse inTier result rest
      else do
        let remaining ← collapse inTier value rest
        return ⟨first, (operator, remaining.first) :: remaining.rest⟩

private theorem collapse_multiplicative (pairs : List (Operator × Binary64)) :
    ∀ first : Binary64, collapse Operator.isMultiplicative first pairs = products first pairs := by
  induction pairs with
  | nil => exact fun _ => rfl
  | cons pair rest inductionHypothesis =>
      intro first
      rw [collapse, products]
      simp only [inductionHypothesis]

/-- A tier that holds all operators leaves their total. -/
theorem collapse_of_all {inTier : Operator → Bool} {pairs : List (Operator × Binary64)} :
    (∀ pair ∈ pairs, inTier pair.1 = true) → ∀ first : Binary64,
      collapse inTier first pairs = total first pairs >>= fun value => .ok ⟨value, []⟩ := by
  induction pairs with
  | nil => exact fun _ _ => rfl
  | cons pair rest inductionHypothesis =>
      intro allInTier first
      obtain ⟨thisInTier, restInTier⟩ := List.forall_mem_cons.mp allInTier
      rw [collapse, if_pos thisInTier, total]
      simp only [inductionHypothesis restInTier]
      cases pair.1.apply first pair.2 <;> rfl

end Chain

namespace Checked

open Chain (collapse links ofTokens)

/-! ### The shape of the tokens -/

/-- The symbols of the operators, those that bind closer first. -/
def tiers : List (List String) :=
  [["*", "/", "%"], ["+", "-"]]

/-- Whether a token may stand at a place. -/
def checkPlace (place : Nat) (token : Token) : Checked Unit :=
  if place % 2 = 0 then
    match token.lexeme with
    | .number _ => return ()
    | _ => refuse (.malformedExpression (.unexpected token .number))
  else
    match token.lexeme with
    | .operator symbol =>
        if symbol ∈ tiers.flatten then return () else refuse (.invalidOperator symbol)
    | _ => refuse (.malformedExpression (.unexpected token .operator))

/-- The last token must be a number. -/
def checkEnd (tokens : List Token) : Checked Unit := do
  let last ← lastOf tokens
  match last.lexeme with
  | .number _ => return ()
  | other => refuse (.malformedExpression (.endsWithOperator other.plainText last.column))

def checkShape (tokens : List Token) : Checked Unit := do
  if tokens.isEmpty then refuse (.malformedExpression .empty)
  forM tokens.zipIdx fun (token, place) => checkPlace place token
  checkEnd tokens

/-! ### Passes -/

/-- Takes the operator at a place and the number behind it. -/
def tierStep (tier : List String) (tokens reduced : List Token) (place : Nat) :
    Checked (List Token) := do
  let link ← entryAt tokens place
  let right ← entryAt tokens (place + 1)
  let symbol ← symbolOf link
  if symbol ∈ tier then
    let left ← lastOf reduced
    let value ← calculate (← numberOf left) (← numberOf right) symbol
    return reduced.dropLast ++ [⟨.number value, left.column⟩]
  else
    return reduced ++ [link, right]

/-- One pass for the operators of a tier, which stand at every second place. -/
def reduceTier (tokens : List Token) (tier : List String) : Checked (List Token) := do
  let first ← entryAt tokens 0
  (List.range' 1 (tokens.length / 2) 2).foldlM (tierStep tier tokens) [first]

/-- The value of tokens without parentheses and variables. -/
def reduce (tokens : List Token) : Checked Binary64 := do
  checkShape tokens
  match ← tiers.foldlM reduceTier tokens with
  | [single] => numberOf single
  | others => fault (.notReduced others)

/-! ### The shape is that of a chain -/

theorem symbol_mem_tiers_iff {symbol : String} :
    symbol ∈ tiers.flatten ↔ ∃ operator, Operator.ofSymbol? symbol = some operator := by
  constructor
  · intro member
    have known : ∀ symbol ∈ tiers.flatten, (Operator.ofSymbol? symbol).isSome = true := by
      decide
    exact Option.isSome_iff_exists.mp (known symbol member)
  · rintro ⟨operator, found⟩
    rw [← Operator.symbol_of_ofSymbol? found]
    cases operator <;> decide

variable {place : Nat} {token : Token} {tokens : List Token}

private theorem checkPlace_of_even (even : place % 2 = 0) :
    checkPlace place token = report (Chain.operand token) >>= fun _ => .ok () := by
  rw [checkPlace, if_pos even, Chain.operand]
  cases token.lexeme <;> rfl

private theorem checkPlace_of_odd (odd : place % 2 = 1) :
    checkPlace place token = report (Chain.operatorAt token) >>= fun _ => .ok () := by
  rw [checkPlace, if_neg (by omega), Chain.operatorAt]
  cases token.lexeme with
  | operator symbol =>
      dsimp only
      cases found : Operator.ofSymbol? symbol with
      | some operator =>
          rw [if_pos (symbol_mem_tiers_iff.mpr ⟨operator, found⟩)]
          rfl
      | none =>
          have unknown : symbol ∉ tiers.flatten := by
            rw [symbol_mem_tiers_iff, found]
            simp
          rw [if_neg unknown]
          rfl
  | _ => rfl

private theorem checkEnd_cons_cons (first second : Token) (rest : List Token) :
    checkEnd (first :: second :: rest) = checkEnd (second :: rest) := by
  rw [checkEnd, checkEnd, lastOf, lastOf, List.getLast?_cons_cons]

private theorem checkEnd_singleton (token : Token) :
    checkEnd [token] =
      match token.lexeme with
      | .number _ => .ok ()
      | other =>
          refuse (.malformedExpression (.endsWithOperator other.plainText token.column)) := rfl

private theorem checkEnd_of_number? {value : Binary64} (isNumber : token.number? = some value) :
    checkEnd [token] = .ok () := by
  rw [checkEnd_singleton, lexeme_of_number? isNumber]

private theorem checkEnd_of_names {operator : Operator} (names : token.Names operator) :
    checkEnd [token] =
      refuse (.malformedExpression (.endsWithOperator operator.symbol token.column)) := by
  rw [checkEnd_singleton, show token.lexeme = _ from names]
  rfl

/-- The checks of the tokens that follow a number. -/
def checkRest (place : Nat) (first : Token) (rest : List Token) : Checked Unit := do
  forM (rest.zipIdx place) fun (token, place) => checkPlace place token
  checkEnd (first :: rest)

private theorem checkRest_cons (place : Nat) (first next : Token) (rest : List Token) :
    checkRest place first (next :: rest) =
      checkPlace place next >>= fun _ => checkRest (place + 1) next rest := by
  rw [checkRest, List.zipIdx_cons, List.forM_cons, bind_assoc, checkEnd_cons_cons]
  rfl

/-- Behind a number, the shape is that of the links of a chain. -/
theorem checkRest_eq :
    ∀ {rest : List Token} {place : Nat} {first : Token} {value : Binary64},
      first.number? = some value → place % 2 = 1 →
        checkRest place first rest = report (links rest) >>= fun _ => .ok ()
  | [], place, first, value, isNumber, odd => checkEnd_of_number? isNumber
  | [last], place, first, value, isNumber, odd => by
      rw [checkRest_cons, checkPlace_of_odd odd, links]
      cases read : Chain.operatorAt last with
      | error error => rfl
      | ok operator => exact checkEnd_of_names (Chain.operatorAt_eq_ok_iff.mp read)
  | link :: next :: rest, place, first, value, isNumber, odd => by
      have even : (place + 1) % 2 = 0 := by omega
      have stillOdd : (place + 1 + 1) % 2 = 1 := by omega
      rw [checkRest_cons, checkRest_cons, checkPlace_of_odd odd, checkPlace_of_even even, links]
      cases Chain.operatorAt link with
      | error error => rfl
      | ok operator =>
          cases read : Chain.operand next with
          | error error => rfl
          | ok number =>
              show checkRest (place + 1 + 1) next rest = _
              rw [checkRest_eq (Chain.operand_eq_ok_iff.mp read) stillOdd]
              cases links rest <;> rfl

/-- **The checks pass exactly for the tokens of a chain**, and refuse others with
the error of reading a chain. -/
theorem checkShape_eq (tokens : List Token) :
    checkShape tokens = report (ofTokens tokens) >>= fun _ => .ok () := by
  cases tokens with
  | nil => rfl
  | cons first rest =>
      have checks : checkShape (first :: rest) =
          checkPlace 0 first >>= fun _ => checkRest 1 first rest := by
        show (forM ((first :: rest).zipIdx 0) fun (token, place) => checkPlace place token) >>=
          (fun _ => checkEnd (first :: rest)) = _
        rw [List.zipIdx_cons, List.forM_cons, bind_assoc]
        rfl
      rw [checks, checkPlace_of_even rfl, ofTokens]
      cases read : Chain.operand first with
      | error error => rfl
      | ok number =>
          show checkRest 1 first rest = _
          rw [checkRest_eq (Chain.operand_eq_ok_iff.mp read) rfl]
          cases links rest <;> rfl

/-! ### A pass collapses its tier -/

section

variable {tier : List String} {before after done reduced : List Token} {link left right : Token}
  {operator : Operator} {first value : Binary64}

private theorem tierStep_eq (names : link.Names operator) :
    tierStep tier (before ++ link :: right :: after) reduced before.length =
      if operator.symbol ∈ tier then do
        let left ← lastOf reduced
        let value ← calculate (← numberOf left) (← numberOf right) operator.symbol
        return reduced.dropLast ++ [⟨.number value, left.column⟩]
      else return reduced ++ [link, right] := by
  have atLink : entryAt (before ++ link :: right :: after) before.length = .ok link :=
    entryAt_append before link (right :: after)
  have atRight : entryAt (before ++ link :: right :: after) (before.length + 1) = .ok right := by
    have shifted := entryAt_append (before ++ [link]) right after
    rw [List.append_assoc, List.length_append, List.length_singleton] at shifted
    exact shifted
  rw [tierStep, atLink, ok_bind, atRight, ok_bind, symbolOf_of_names names, ok_bind]

private theorem tierStep_of_mem (names : link.Names operator)
    (rightNumber : right.number? = some value)
    (leftNumber : left.number? = some first) (member : operator.symbol ∈ tier) :
    tierStep tier (before ++ link :: right :: after) (done ++ [left]) before.length =
      report (operator.apply first value) >>= fun result =>
        .ok (done ++ [⟨.number result, left.column⟩]) := by
  rw [tierStep_eq names, if_pos member, lastOf_append, ok_bind, numberOf_of_number? leftNumber,
    ok_bind, numberOf_of_number? rightNumber, ok_bind, calculate_symbol, List.dropLast_concat]
  rfl

private theorem tierStep_of_not_mem (names : link.Names operator)
    (absent : operator.symbol ∉ tier) :
    tierStep tier (before ++ link :: right :: after) reduced before.length =
      .ok (reduced ++ [link, right]) := by
  rw [tierStep_eq names, if_neg absent]
  rfl

end

/-- The tokens behind those that are done spell the chain, or the error of the
chain is reported. -/
def Leaves (done : List Token) (result : Except EvalError Chain)
    (checked : Checked (List Token)) : Prop :=
  match result with
  | .error error => checked = refuse error
  | .ok chain => ∃ tokens, ofTokens tokens = .ok chain ∧ checked = .ok (done ++ tokens)

/-- A number and an operator that are kept stand before what is left. -/
theorem Leaves.keep {done : List Token} {left link : Token} {first : Binary64}
    {operator : Operator} {result : Except EvalError Chain} {checked : Checked (List Token)}
    (leftNumber : left.number? = some first) (names : link.Names operator)
    (leaves : Leaves (done ++ [left, link]) result checked) :
    Leaves done
      (result >>= fun remaining => .ok ⟨first, (operator, remaining.first) :: remaining.rest⟩)
      checked := by
  cases result with
  | error error => exact leaves
  | ok remaining =>
      obtain ⟨tokens, spells, isTokens⟩ := leaves
      refine ⟨left :: link :: tokens, ?_, ?_⟩
      · exact Chain.ofTokens_cons_eq_ok_iff.mpr ⟨first, _, leftNumber,
          Chain.links_cons_eq_ok_iff.mpr ⟨operator, remaining, names, spells, rfl⟩, rfl⟩
      · rw [isTokens, List.append_assoc]
        rfl

variable {tier : List String} {inTier : Operator → Bool}

/-- The steps of a pass over the links of a chain collapse its tier. The last
token that is kept stands for the number that was reached. -/
theorem foldlM_tierStep
    (decides : ∀ operator : Operator, operator.symbol ∈ tier ↔ inTier operator = true) :
    ∀ {pairs : List (Operator × Binary64)} {before rest done : List Token} {left : Token}
      {first : Binary64}, links rest = .ok pairs → left.number? = some first →
        Leaves done (collapse inTier first pairs)
          ((List.range' before.length pairs.length 2).foldlM (tierStep tier (before ++ rest))
            (done ++ [left])) := by
  intro pairs
  -- Each step takes one link; the two tokens of the link join those before the next place.
  induction pairs with
  | nil =>
      intro before rest done left first _ leftNumber
      exact ⟨[left], Chain.ofTokens_cons_eq_ok_iff.mpr ⟨first, [], leftNumber, rfl, rfl⟩, rfl⟩
  | cons pair pairs inductionHypothesis =>
      intro before rest done left first spells leftNumber
      cases rest with
      | nil => cases spells
      | cons link rest =>
          obtain ⟨operator, chain, names, spellsRest, same⟩ := Chain.links_cons_eq_ok_iff.mp spells
          cases rest with
          | nil => cases spellsRest
          | cons right after =>
              obtain ⟨value, remaining, rightNumber, spellsAfter, rfl⟩ :=
                Chain.ofTokens_cons_eq_ok_iff.mp spellsRest
              cases same
              have shifted : before ++ link :: right :: after =
                  (before ++ [link, right]) ++ after := by simp
              have later : before.length + 2 = (before ++ [link, right]).length := by simp
              rw [List.length_cons, List.range'_succ, List.foldlM_cons]
              by_cases member : operator.symbol ∈ tier
              · rw [tierStep_of_mem names rightNumber leftNumber member, collapse,
                  if_pos ((decides operator).mp member)]
                dsimp only
                cases operator.apply first value with
                | error error => rfl
                | ok result =>
                    rw [report_ok, ok_bind, ok_bind, shifted, later]
                    exact inductionHypothesis spellsAfter rfl
              · have absent : ¬ inTier operator = true := fun isIn =>
                  member ((decides operator).mpr isIn)
                have kept :
                    done ++ [left] ++ [link, right] = (done ++ [left, link]) ++ [right] := by
                  simp
                rw [tierStep_of_not_mem names member, ok_bind, shifted, later, kept, collapse,
                  if_neg absent]
                exact (inductionHypothesis spellsAfter rightNumber).keep leftNumber names

/-- **A pass over the tokens of a chain collapses its tier.** -/
theorem reduceTier_leaves
    (decides : ∀ operator : Operator, operator.symbol ∈ tier ↔ inTier operator = true)
    {tokens : List Token} {chain : Chain} (spells : ofTokens tokens = .ok chain) :
    Leaves [] (collapse inTier chain.first chain.rest) (reduceTier tokens tier) := by
  cases tokens with
  | nil => cases spells
  | cons first rest =>
      obtain ⟨value, pairs, isNumber, spellsRest, rfl⟩ := Chain.ofTokens_cons_eq_ok_iff.mp spells
      have places : (first :: rest).length / 2 = pairs.length := by
        have length := Chain.length_of_links spellsRest
        rw [List.length_cons]
        omega
      have pass := @foldlM_tierStep _ _ decides pairs [first] rest [] first value spellsRest
        isNumber
      rw [reduceTier, places]
      exact pass

/-! ### The value -/

theorem multiplicative_mem_iff (operator : Operator) :
    operator.symbol ∈ ["*", "/", "%"] ↔ operator.isMultiplicative = true := by
  cases operator <;> decide

theorem additive_mem_iff (operator : Operator) :
    operator.symbol ∈ ["+", "-"] ↔ (!operator.isMultiplicative) = true := by
  cases operator <;> decide

/-- Tokens of a chain without operators are a single number. -/
theorem exists_single {tokens : List Token} {value : Binary64}
    (spells : ofTokens tokens = .ok ⟨value, []⟩) :
    ∃ single, tokens = [single] ∧ numberOf single = .ok value := by
  cases tokens with
  | nil => cases spells
  | cons single rest =>
      obtain ⟨first, pairs, isNumber, spellsRest, same⟩ :=
        Chain.ofTokens_cons_eq_ok_iff.mp spells
      cases same
      have none : rest = [] := List.length_eq_zero_iff.mp (Chain.length_of_links spellsRest)
      exact ⟨single, by rw [none], numberOf_of_number? isNumber⟩

/-- **The checked reduction is that of chains**, and it has no fault: both passes
stay inside of their tokens, and they leave a single number. -/
theorem reduce_eq (tokens : List Token) : reduce tokens = report (Reckoner.reduce tokens) := by
  rw [reduce, checkShape_eq, Reckoner.reduce]
  cases spells : ofTokens tokens with
  | error error => rfl
  | ok chain =>
      have products := reduceTier_leaves multiplicative_mem_iff spells
      rw [Chain.collapse_multiplicative] at products
      show (tiers.foldlM reduceTier tokens >>= _) = report chain.value
      rw [tiers, List.foldlM_cons, Chain.value]
      cases taken : Chain.products chain.first chain.rest with
      | error error =>
          rw [taken] at products
          rw [show reduceTier tokens _ = refuse error from products]
          rfl
      | ok sum =>
          rw [taken] at products
          obtain ⟨sumTokens, spellsSum, isSum⟩ := products
          have additive := Chain.additive_of_products taken
          have sums := reduceTier_leaves additive_mem_iff spellsSum
          rw [Chain.collapse_of_all (by simpa using additive)] at sums
          rw [isSum, List.nil_append, ok_bind, List.foldlM_cons]
          show _ = report (Chain.total sum.first sum.rest)
          cases summed : Chain.total sum.first sum.rest with
          | error error =>
              rw [summed] at sums
              rw [show reduceTier sumTokens _ = refuse error from sums]
              rfl
          | ok value =>
              rw [summed] at sums
              obtain ⟨valueTokens, spellsValue, isValue⟩ := sums
              obtain ⟨single, rfl, isNumber⟩ := exists_single spellsValue
              rw [isValue]
              exact isNumber

example : reduceTier [⟨.number .one, 1⟩, ⟨.operator "+", 2⟩] ["+", "-"] =
    fault (.absentPlace 2) := by decide

end Checked

end Reckoner
