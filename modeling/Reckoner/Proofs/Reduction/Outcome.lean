import Reckoner.Proofs.Reduction.Divisors

/-!
Contract: what flat tokens come to, read off the tokens themselves.

A token fits its place if it is a number at an even place or a known operator at
an odd one. The first that does not fit is reported; if all fit, an operator at
the end; and then the first division by a zero that stands among the tokens.
Main statement: nothing else is reported, so tokens without these faults have a
value.

Owns: the faults of flat tokens, in the order in which they are looked for.

Does not own: what the passes over a chain can fail with.
-/

namespace Reckoner

/-! ### Faults of tokens -/

namespace Token

/-- Numbers stand at even places, and known operators at odd ones. -/
def Fits (place : Nat) (token : Token) : Prop :=
  if place % 2 = 0 then ∃ value, token.number? = some value
  else ∃ operator, token.Names operator

/-- What is reported of a token that does not fit its place. -/
def misfit (place : Nat) (token : Token) : EvalError :=
  if place % 2 = 0 then .malformedExpression (.unexpected token .number)
  else
    match token.lexeme with
    | .operator symbol => .invalidOperator symbol
    | _ => .malformedExpression (.unexpected token .operator)

variable {token : Token} {place : Nat}

private theorem fits_of_even (even : place % 2 = 0) :
    token.Fits place ↔ ∃ value, token.number? = some value := by
  rw [Fits, if_pos even]

private theorem fits_of_odd (odd : place % 2 = 1) :
    token.Fits place ↔ ∃ operator, token.Names operator := by
  rw [Fits, if_neg (by omega)]

end Token

/-- The places of the tokens that do not fit. -/
def misfits (tokens : List Token) : Set Nat :=
  {place | ∃ token, tokens[place]? = some token ∧ ¬ token.Fits place}

/-- The token at the place is the operator, and the next token is a number that
it refuses as a divisor. -/
def DividesByZeroAt (tokens : List Token) (place : Nat) (operator : Operator) : Prop :=
  ∃ link divisor value, tokens[place]? = some link ∧ link.Names operator ∧
    tokens[place + 1]? = some divisor ∧ divisor.number? = some value ∧ operator.Refuses value

/-- The places of the divisions by a zero. -/
def zeroDivisions (tokens : List Token) : Set Nat :=
  {place | ∃ operator, DividesByZeroAt tokens place operator}

/-- Why tokens have no value. A reason counts only if those before it do not
apply. -/
inductive FirstFault (tokens : List Token) : EvalError → Prop where
  | empty (nothing : tokens = []) : FirstFault tokens (.malformedExpression .empty)
  | misfit {place : Nat} {token : Token} (least : IsLeast (misfits tokens) place)
      (found : tokens[place]? = some token) : FirstFault tokens (token.misfit place)
  | dangling {last : Token} {operator : Operator} (fit : misfits tokens = ∅)
      (even : tokens.length % 2 = 0) (isLast : tokens.getLast? = some last)
      (names : last.Names operator) :
      FirstFault tokens (.malformedExpression (.endsWithOperator operator.symbol last.column))
  | division {place : Nat} {operator : Operator} (fit : misfits tokens = ∅)
      (odd : tokens.length % 2 = 1) (least : IsLeast (zeroDivisions tokens) place)
      (divides : DividesByZeroAt tokens place operator) :
      FirstFault tokens (.divisionByZero operator.symbol)

/-! ### Reading -/

namespace Chain

private theorem operand_of_misfit {token : Token} {place : Nat} (even : place % 2 = 0)
    (misplaced : ¬ token.Fits place) : operand token = .error (token.misfit place) := by
  rw [Token.fits_of_even even] at misplaced
  rw [Token.misfit, if_pos even, operand]
  cases same : token.lexeme with
  | number value => exact absurd ⟨value, by simp only [Token.number?, same]⟩ misplaced
  | _ => rfl

private theorem operatorAt_of_misfit {token : Token} {place : Nat} (odd : place % 2 = 1)
    (misplaced : ¬ token.Fits place) : operatorAt token = .error (token.misfit place) := by
  rw [Token.fits_of_odd odd] at misplaced
  rw [Token.misfit, if_neg (by omega), operatorAt]
  cases same : token.lexeme with
  | operator symbol =>
      dsimp only
      cases found : Operator.ofSymbol? symbol with
      | none => rfl
      | some operator =>
          have names : token.Names operator := by
            rw [Token.Names, same, Operator.symbol_of_ofSymbol? found]
          exact absurd ⟨operator, names⟩ misplaced
  | _ => rfl

/-- Behind a number, which stands at an even place, the first token that does
not fit is reported. -/
theorem links_of_misfit :
    ∀ {tokens : List Token} {start place : Nat} {token : Token}, start % 2 = 1 →
      tokens[place]? = some token → ¬ token.Fits (start + place) →
        (∀ earlier < place, ∀ other, tokens[earlier]? = some other →
          other.Fits (start + earlier)) →
          links tokens = .error (token.misfit (start + place))
  | [last], start, 0, token, odd, found, misplaced, _ => by
      cases found
      rw [links, operatorAt_of_misfit odd misplaced]
      rfl
  | link :: next :: rest, start, 0, token, odd, found, misplaced, _ => by
      cases found
      rw [links, operatorAt_of_misfit odd misplaced]
      rfl
  | link :: next :: rest, start, 1, token, odd, found, misplaced, fit => by
      cases found
      obtain ⟨operator, names⟩ := (Token.fits_of_odd odd).mp (fit 0 Nat.one_pos link rfl)
      have even : (start + 1) % 2 = 0 := by omega
      rw [links, operatorAt_eq_ok_iff.mpr names, operand_of_misfit even misplaced]
      rfl
  | link :: next :: rest, start, place + 2, token, odd, found, misplaced, fit => by
      obtain ⟨operator, names⟩ := (Token.fits_of_odd odd).mp (fit 0 (by omega) link rfl)
      have even : (start + 1) % 2 = 0 := by omega
      obtain ⟨value, reads⟩ := (Token.fits_of_even even).mp (fit 1 (by omega) next rfl)
      have shifted : start + (place + 2) = start + 2 + place := by omega
      rw [shifted] at misplaced ⊢
      have restFit : ∀ earlier < place, ∀ other, rest[earlier]? = some other →
          other.Fits (start + 2 + earlier) := by
        intro earlier below other isOther
        rw [show start + 2 + earlier = start + (earlier + 2) by omega]
        exact fit (earlier + 2) (by omega) other isOther
      have restFails : links rest = .error (token.misfit (start + 2 + place)) :=
        links_of_misfit (by omega) found misplaced restFit
      rw [links, operatorAt_eq_ok_iff.mpr names, operand_eq_ok_iff.mpr reads, restFails]
      rfl

private theorem ofTokens_of_isLeast_misfit {tokens : List Token} {place : Nat} {token : Token}
    (least : IsLeast (misfits tokens) place) (found : tokens[place]? = some token) :
    ofTokens tokens = .error (token.misfit place) := by
  obtain ⟨⟨_, isFound, misplaced⟩, below⟩ := least
  cases found.symm.trans isFound
  have fit : ∀ earlier < place, ∀ other, tokens[earlier]? = some other → other.Fits earlier := by
    intro earlier isEarlier other isOther
    by_contra misfits
    exact Nat.not_le_of_lt isEarlier (below ⟨other, isOther, misfits⟩)
  cases tokens with
  | nil => cases found
  | cons first rest =>
      cases place with
      | zero =>
          cases found
          rw [ofTokens, operand_of_misfit rfl misplaced]
          rfl
      | succ place =>
          obtain ⟨value, reads⟩ :=
            (Token.fits_of_even rfl).mp (fit 0 (Nat.zero_lt_succ place) first rfl)
          have restFit : ∀ earlier < place, ∀ other, rest[earlier]? = some other →
              other.Fits (1 + earlier) := by
            intro earlier isEarlier other isOther
            rw [Nat.add_comm]
            exact fit (earlier + 1) (Nat.succ_lt_succ isEarlier) other isOther
          rw [Nat.add_comm] at misplaced ⊢
          have restFails : links rest = .error (token.misfit (1 + place)) :=
            links_of_misfit rfl found misplaced restFit
          rw [ofTokens, operand_eq_ok_iff.mpr reads, restFails]
          rfl

/-- Behind a number, tokens that all fit are pairs or end with an operator. -/
theorem links_of_fit :
    ∀ {tokens : List Token} {start : Nat}, start % 2 = 1 →
      (∀ place (token : Token), tokens[place]? = some token → token.Fits (start + place)) →
        (tokens.length % 2 = 0 ∧ ∃ pairs, links tokens = .ok pairs) ∨
          tokens.length % 2 = 1 ∧ ∃ last operator, tokens.getLast? = some last ∧
            last.Names operator ∧ links tokens =
              .error (.malformedExpression (.endsWithOperator operator.symbol last.column))
  | [], start, odd, fit => .inl ⟨rfl, [], rfl⟩
  | [last], start, odd, fit => by
      obtain ⟨operator, names⟩ := (Token.fits_of_odd odd).mp (fit 0 last rfl)
      refine .inr ⟨rfl, last, operator, rfl, names, ?_⟩
      rw [links, operatorAt_eq_ok_iff.mpr names]
      rfl
  | link :: next :: rest, start, odd, fit => by
      obtain ⟨operator, names⟩ := (Token.fits_of_odd odd).mp (fit 0 link rfl)
      have even : (start + 1) % 2 = 0 := by omega
      obtain ⟨value, reads⟩ := (Token.fits_of_even even).mp (fit 1 next rfl)
      have restFit : ∀ place (token : Token), rest[place]? = some token →
          token.Fits (start + 2 + place) := by
        intro place token found
        rw [show start + 2 + place = start + (place + 2) by omega]
        exact fit (place + 2) token found
      have length : (link :: next :: rest).length = rest.length + 2 := rfl
      rw [length, Nat.add_mod_right, links, operatorAt_eq_ok_iff.mpr names,
        operand_eq_ok_iff.mpr reads]
      rcases links_of_fit (by omega) restFit with ⟨evenRest, pairs, readRest⟩ |
        ⟨oddRest, last, lastOperator, isLast, lastNames, restFails⟩
      · rw [readRest]
        exact .inl ⟨evenRest, _, rfl⟩
      · rw [restFails]
        refine .inr ⟨oddRest, last, lastOperator, ?_, lastNames, rfl⟩
        simp only [List.getLast?_cons, isLast, Option.getD_some]

/-- The pairs of a chain are the tokens behind its first number, two by two. -/
theorem getElem?_of_links :
    ∀ {tokens : List Token} {pairs : List (Operator × Binary64)}, links tokens = .ok pairs →
      ∀ {index : Nat} {operator : Operator} {value : Binary64},
        pairs[index]? = some (operator, value) ↔
          ∃ link next, tokens[2 * index]? = some link ∧ link.Names operator ∧
            tokens[2 * index + 1]? = some next ∧ next.number? = some value
  | [], pairs, spells, index, operator, value => by
      cases spells
      simp
  | [last], pairs, spells, index, operator, value => by
      obtain ⟨_, _, _, impossible, _⟩ := links_cons_eq_ok_iff.mp spells
      cases impossible
  | link :: next :: rest, pairs, spells, index, operator, value => by
      obtain ⟨first, chain, namesFirst, spellsRest, rfl⟩ := links_cons_eq_ok_iff.mp spells
      obtain ⟨number, remaining, reads, spellsRemaining, rfl⟩ :=
        ofTokens_cons_eq_ok_iff.mp spellsRest
      cases index with
      | zero =>
          constructor
          · intro isFirst
            cases isFirst
            exact ⟨link, next, rfl, namesFirst, rfl, reads⟩
          · rintro ⟨_, _, isLink, names, isNext, readsNext⟩
            cases isLink
            cases isNext
            cases reads.symm.trans readsNext
            rw [namesFirst.unique names]
            rfl
      | succ index => exact getElem?_of_links spellsRemaining

end Chain

/-! ### All faults -/

section Faults

variable {tokens : List Token}

private theorem fits_of_misfits_eq_empty (fit : misfits tokens = ∅) {place : Nat} {token : Token}
    (found : tokens[place]? = some token) : token.Fits place := by
  by_contra misplaced
  exact Set.eq_empty_iff_forall_notMem.mp fit place ⟨token, found, misplaced⟩

/-- Tokens that all fit are a chain, unless the last one is an operator. -/
theorem ofTokens_of_fit (nonempty : tokens ≠ []) (fit : misfits tokens = ∅) :
    (tokens.length % 2 = 1 ∧ ∃ chain, Chain.ofTokens tokens = .ok chain) ∨
      tokens.length % 2 = 0 ∧ ∃ last operator, tokens.getLast? = some last ∧
        last.Names operator ∧ Chain.ofTokens tokens =
          .error (.malformedExpression (.endsWithOperator operator.symbol last.column)) := by
  cases tokens with
  | nil => exact absurd rfl nonempty
  | cons first rest =>
      have isFirst : (first :: rest)[0]? = some first := rfl
      obtain ⟨value, reads⟩ :=
        (Token.fits_of_even rfl).mp (fits_of_misfits_eq_empty fit isFirst)
      have restFit : ∀ place (token : Token), rest[place]? = some token →
          token.Fits (1 + place) := by
        intro place token found
        rw [Nat.add_comm]
        exact fits_of_misfits_eq_empty fit found
      rw [List.length_cons, Chain.ofTokens, Chain.operand_eq_ok_iff.mpr reads]
      rcases Chain.links_of_fit rfl restFit with ⟨even, pairs, readRest⟩ |
        ⟨odd, last, operator, isLast, names, restFails⟩
      · rw [readRest]
        exact .inl ⟨by omega, _, rfl⟩
      · rw [restFails]
        refine .inr ⟨by omega, last, operator, ?_, names, rfl⟩
        simp only [List.getLast?_cons, isLast, Option.getD_some]

variable {chain : Chain} (spells : Chain.ofTokens tokens = .ok chain)

include spells

/-- The divisions by a zero are the refusals of the chain. -/
theorem dividesByZeroAt_iff (fit : misfits tokens = ∅) {place : Nat} {operator : Operator} :
    DividesByZeroAt tokens place operator ↔
      ∃ index value, place = 2 * index + 1 ∧ chain.rest[index]? = some (operator, value) ∧
        operator.Refuses value := by
  cases tokens with
  | nil => cases spells
  | cons first rest =>
      obtain ⟨head, pairs, _, spellsRest, rfl⟩ := Chain.ofTokens_cons_eq_ok_iff.mp spells
      constructor
      · rintro ⟨link, divisor, value, isLink, names, isDivisor, reads, refuses⟩
        have odd : place % 2 = 1 := by
          by_contra notOdd
          have even : place % 2 = 0 := by omega
          obtain ⟨number, isNumber⟩ :=
            (Token.fits_of_even even).mp (fits_of_misfits_eq_empty fit isLink)
          cases isNumber.symm.trans (Token.number?_of_names names)
        obtain ⟨index, rfl⟩ : ∃ index, place = 2 * index + 1 := ⟨place / 2, by omega⟩
        exact ⟨index, value, rfl,
          (Chain.getElem?_of_links spellsRest).mpr ⟨link, divisor, isLink, names, isDivisor, reads⟩,
          refuses⟩
      · rintro ⟨index, value, rfl, found, refuses⟩
        obtain ⟨link, divisor, isLink, names, isDivisor, reads⟩ :=
          (Chain.getElem?_of_links spellsRest).mp found
        exact ⟨link, divisor, value, isLink, names, isDivisor, reads, refuses⟩

private theorem mem_zeroDivisions_iff (fit : misfits tokens = ∅) {place : Nat} :
    place ∈ zeroDivisions tokens ↔ ∃ index ∈ Chain.refusals chain.rest, place = 2 * index + 1 := by
  constructor
  · rintro ⟨operator, divides⟩
    obtain ⟨index, value, rfl, found, refuses⟩ := (dividesByZeroAt_iff spells fit).mp divides
    exact ⟨index, ⟨(operator, value), found, refuses⟩, rfl⟩
  · rintro ⟨index, ⟨⟨operator, value⟩, found, refuses⟩, rfl⟩
    exact ⟨operator, (dividesByZeroAt_iff spells fit).mpr ⟨index, value, rfl, found, refuses⟩⟩

private theorem reduce_of_ofTokens : reduce tokens = chain.value := by
  rw [reduce, spells]
  rfl

end Faults

variable {tokens : List Token} {error : EvalError}

private theorem reduce_of_fault (fault : FirstFault tokens error) :
    reduce tokens = .error error := by
  cases fault with
  | empty nothing =>
      subst nothing
      rfl
  | misfit least found =>
      rw [reduce, Chain.ofTokens_of_isLeast_misfit least found]
      rfl
  | @dangling last operator fit even isLast names =>
      have nonempty : tokens ≠ [] := by
        rintro rfl
        cases isLast
      rcases ofTokens_of_fit nonempty fit with ⟨odd, _⟩ |
        ⟨_, found, other, isFound, namesOther, fails⟩
      · omega
      · cases isLast.symm.trans isFound
        rw [reduce, fails, names.unique namesOther]
        rfl
  | @division place operator fit odd least divides =>
      have nonempty : tokens ≠ [] := by
        rintro rfl
        cases odd
      rcases ofTokens_of_fit nonempty fit with ⟨_, chain, spells⟩ | ⟨even, _⟩
      · obtain ⟨index, value, rfl, found, refuses⟩ := (dividesByZeroAt_iff spells fit).mp divides
        have leastRefusal : IsLeast (Chain.refusals chain.rest) index := by
          refine ⟨⟨(operator, value), found, refuses⟩, fun other refused => ?_⟩
          have below := least.2 ((mem_zeroDivisions_iff spells fit).mpr ⟨other, refused, rfl⟩)
          omega
        rw [reduce_of_ofTokens spells, Chain.value_of_isLeast_refusal leastRefusal found]
      · omega

/-- Tokens have a fault, or they have a value. -/
theorem exists_fault_or_value (tokens : List Token) :
    (∃ error, FirstFault tokens error) ∨
      (misfits tokens = ∅ ∧ tokens.length % 2 = 1 ∧ zeroDivisions tokens = ∅) ∧
        ∃ value, reduce tokens = .ok value := by
  classical
  by_cases nothing : tokens = []
  · exact .inl ⟨_, .empty nothing⟩
  by_cases misplaced : (misfits tokens).Nonempty
  · have least := misplaced.isLeast_natFind
    obtain ⟨token, found, _⟩ := least.1
    exact .inl ⟨_, .misfit least found⟩
  have fit := Set.not_nonempty_iff_eq_empty.mp misplaced
  rcases ofTokens_of_fit nothing fit with ⟨odd, chain, spells⟩ |
    ⟨even, last, operator, isLast, names, _⟩
  · by_cases divides : (zeroDivisions tokens).Nonempty
    · have least := divides.isLeast_natFind
      obtain ⟨operator, dividesThere⟩ := least.1
      exact .inl ⟨_, .division fit odd least dividesThere⟩
    · have none := Set.not_nonempty_iff_eq_empty.mp divides
      have noRefusal : Chain.refusals chain.rest = ∅ := by
        refine Set.eq_empty_iff_forall_notMem.mpr fun index refused => divides ?_
        exact ⟨_, (mem_zeroDivisions_iff spells fit).mpr ⟨index, refused, rfl⟩⟩
      obtain ⟨value, has⟩ := Chain.exists_value_eq_ok noRefusal
      exact .inr ⟨⟨fit, odd, none⟩, value, (reduce_of_ofTokens spells).trans has⟩
  · exact .inl ⟨_, .dangling fit even isLast names⟩

/-- Tokens with a fault are not those that have a value. -/
theorem FirstFault.not_sound (fault : FirstFault tokens error) :
    ¬ (misfits tokens = ∅ ∧ tokens.length % 2 = 1 ∧ zeroDivisions tokens = ∅) := by
  rintro ⟨fit, odd, noDivision⟩
  cases fault with
  | empty nothing =>
      subst nothing
      cases odd
  | misfit least _ => exact Set.eq_empty_iff_forall_notMem.mp fit _ least.1
  | dangling _ even _ _ => omega
  | division _ _ least _ => exact Set.eq_empty_iff_forall_notMem.mp noDivision _ least.1

/-- **The first fault decides.** Tokens fail with the error of their fault, in
the order in which faults are looked for, and have a value exactly if every token
fits, the last one is a number, and no division by a zero stands among them. A
chain fails alike whatever number its pass for products begins with, and the
pass for sums behind it does not fail. -/
theorem reduce_outcome (tokens : List Token) :
    (∀ error, reduce tokens = .error error ↔ FirstFault tokens error) ∧
      ((∃ value, reduce tokens = .ok value) ↔
        misfits tokens = ∅ ∧ tokens.length % 2 = 1 ∧ zeroDivisions tokens = ∅) ∧
      ∀ chain : Chain,
        (∀ first error, Chain.products first chain.rest = .error error ↔
          chain.value = .error error) ∧
        ∀ sums, Chain.products chain.first chain.rest = .ok sums →
          ∃ value, Chain.total sums.first sums.rest = .ok value := by
  refine ⟨fun error => ⟨fun fails => ?_, reduce_of_fault⟩, ⟨?_, fun sound => ?_⟩, fun chain =>
    ⟨fun first error => Chain.products_eq_error_iff, fun sums taken =>
      Chain.exists_total_products_eq_ok taken⟩⟩
  · rcases exists_fault_or_value tokens with ⟨other, fault⟩ | ⟨_, value, has⟩
    · cases (reduce_of_fault fault).symm.trans fails
      exact fault
    · cases has.symm.trans fails
  · rintro ⟨value, has⟩
    rcases exists_fault_or_value tokens with ⟨error, fault⟩ | ⟨sound, _⟩
    · cases (reduce_of_fault fault).symm.trans has
    · exact sound
  · rcases exists_fault_or_value tokens with ⟨error, fault⟩ | ⟨_, hasValue⟩
    · exact absurd sound fault.not_sound
    · exact hasValue

end Reckoner
