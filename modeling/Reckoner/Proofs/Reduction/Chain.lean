import Reckoner.Proofs.Grammar.Tree
import Reckoner.Proofs.Sequencing

/-!
Contract: how chains are put together from shorter chains.

Two chains are joined by an operator between the last number of one and the
first of the other. Reading commutes with joining. A chain whose operators are
all multiplicative is one product; joining it with an additive operator leaves
the products of the other chain as they are, and joining a number with a
multiplicative operator extends the last product.

Owns: when a chain is read from tokens, the tokens and the products of joined
chains, and their values.

Does not own: parentheses.
-/

namespace Reckoner.Chain

/-! ### Reading -/

theorem operand_eq_ok_iff {token : Token} {value : Binary64} :
    operand token = .ok value ↔ token.number? = some value := by
  unfold operand Token.number?
  cases token.lexeme <;> simp

theorem operatorAt_eq_ok_iff {token : Token} {operator : Operator} :
    operatorAt token = .ok operator ↔ token.Names operator := by
  unfold operatorAt Token.Names
  cases token.lexeme with
  | operator symbol =>
      constructor
      · intro read
        cases found : Operator.ofSymbol? symbol with
        | none => simp [found] at read
        | some known =>
            simp only [found, Except.ok.injEq] at read
            rw [← read, Operator.symbol_of_ofSymbol? found]
      · intro same
        injection same with sameSymbol
        simp [sameSymbol]
  | _ => simp

theorem ofTokens_cons_eq_ok_iff {token : Token} {rest : List Token} {chain : Chain} :
    ofTokens (token :: rest) = .ok chain ↔
      ∃ first pairs, token.number? = some first ∧ links rest = .ok pairs ∧
        chain = ⟨first, pairs⟩ := by
  constructor
  · intro read
    obtain ⟨first, readFirst, readRest⟩ := bind_eq_ok_iff.mp read
    obtain ⟨pairs, readPairs, same⟩ := bind_eq_ok_iff.mp readRest
    injection same with sameChain
    exact ⟨first, pairs, operand_eq_ok_iff.mp readFirst, readPairs, sameChain.symm⟩
  · rintro ⟨first, pairs, readFirst, readPairs, rfl⟩
    exact bind_eq_ok_iff.mpr ⟨first, operand_eq_ok_iff.mpr readFirst,
      bind_eq_ok_iff.mpr ⟨pairs, readPairs, rfl⟩⟩

/-- What follows an operator is a chain again. -/
theorem links_cons_eq_ok_iff {token : Token} {rest : List Token}
    {pairs : List (Operator × Binary64)} :
    links (token :: rest) = .ok pairs ↔
      ∃ operator chain, token.Names operator ∧ ofTokens rest = .ok chain ∧
        pairs = (operator, chain.first) :: chain.rest := by
  cases rest with
  | nil =>
      constructor
      · intro read
        obtain ⟨operator, _, impossible⟩ := bind_eq_ok_iff.mp read
        cases impossible
      · rintro ⟨operator, chain, _, impossible, _⟩
        cases impossible
  | cons next rest =>
      constructor
      · intro read
        obtain ⟨operator, readOperator, readRest⟩ := bind_eq_ok_iff.mp read
        obtain ⟨value, readValue, readPairs⟩ := bind_eq_ok_iff.mp readRest
        obtain ⟨remaining, readRemaining, same⟩ := bind_eq_ok_iff.mp readPairs
        injection same with samePairs
        exact ⟨operator, ⟨value, remaining⟩, operatorAt_eq_ok_iff.mp readOperator,
          ofTokens_cons_eq_ok_iff.mpr
            ⟨value, remaining, operand_eq_ok_iff.mp readValue, readRemaining, rfl⟩,
          samePairs.symm⟩
      · rintro ⟨operator, chain, names, readRest, rfl⟩
        obtain ⟨value, remaining, readValue, readRemaining, rfl⟩ :=
          ofTokens_cons_eq_ok_iff.mp readRest
        exact bind_eq_ok_iff.mpr ⟨operator, operatorAt_eq_ok_iff.mpr names,
          bind_eq_ok_iff.mpr ⟨value, operand_eq_ok_iff.mpr readValue,
            bind_eq_ok_iff.mpr ⟨remaining, readRemaining, rfl⟩⟩⟩

theorem length_of_links :
    ∀ {tokens : List Token} {pairs : List (Operator × Binary64)}, links tokens = .ok pairs →
      tokens.length = 2 * pairs.length
  | [], pairs, spells => by
      cases spells
      rfl
  | [last], pairs, spells => by
      obtain ⟨_, _, _, impossible, _⟩ := links_cons_eq_ok_iff.mp spells
      cases impossible
  | link :: next :: rest, pairs, spells => by
      obtain ⟨operator, chain, _, spellsRest, rfl⟩ := links_cons_eq_ok_iff.mp spells
      obtain ⟨value, remaining, _, spellsRemaining, rfl⟩ :=
        ofTokens_cons_eq_ok_iff.mp spellsRest
      have length := length_of_links spellsRemaining
      simp only [List.length_cons]
      omega

/-! ### Joining -/

/-- The numbers of both chains with an operator between them. -/
def join (left : Chain) (operator : Operator) (right : Chain) : Chain :=
  ⟨left.first, left.rest ++ (operator, right.first) :: right.rest⟩

theorem links_append {link : Token} {operator : Operator} {right : List Token} {chain : Chain}
    (names : link.Names operator) (readRight : ofTokens right = .ok chain) :
    ∀ {left : List Token} {pairs : List (Operator × Binary64)}, links left = .ok pairs →
      links (left ++ link :: right) = .ok (pairs ++ (operator, chain.first) :: chain.rest)
  | [], pairs, readLeft => by
      cases readLeft
      exact links_cons_eq_ok_iff.mpr ⟨operator, chain, names, readRight, rfl⟩
  | [last], pairs, readLeft => by
      obtain ⟨_, _, _, impossible, _⟩ := links_cons_eq_ok_iff.mp readLeft
      cases impossible
  | first :: next :: rest, pairs, readLeft => by
      obtain ⟨known, after, namesKnown, readAfter, rfl⟩ := links_cons_eq_ok_iff.mp readLeft
      obtain ⟨value, remaining, readValue, readRemaining, rfl⟩ :=
        ofTokens_cons_eq_ok_iff.mp readAfter
      have inductionHypothesis := links_append names readRight readRemaining
      exact links_cons_eq_ok_iff.mpr ⟨known, ⟨value, _⟩, namesKnown,
        ofTokens_cons_eq_ok_iff.mpr ⟨value, _, readValue, inductionHypothesis, rfl⟩, rfl⟩

theorem ofTokens_append {link : Token} {operator : Operator} {left right : List Token}
    {leftChain rightChain : Chain} (readLeft : ofTokens left = .ok leftChain)
    (names : link.Names operator) (readRight : ofTokens right = .ok rightChain) :
    ofTokens (left ++ link :: right) = .ok (leftChain.join operator rightChain) := by
  cases left with
  | nil => cases readLeft
  | cons token rest =>
      obtain ⟨first, pairs, readFirst, readPairs, rfl⟩ := ofTokens_cons_eq_ok_iff.mp readLeft
      exact ofTokens_cons_eq_ok_iff.mpr
        ⟨first, _, readFirst, links_append names readRight readPairs, rfl⟩

/-! ### Products -/

theorem products_cons_of_multiplicative {operator : Operator} (first value : Binary64)
    (rest : List (Operator × Binary64)) (tier : operator.isMultiplicative = true) :
    products first ((operator, value) :: rest) =
      operator.apply first value >>= fun product => products product rest := by
  rw [products, if_pos tier]

theorem products_cons_of_additive {operator : Operator} (first value : Binary64)
    (rest : List (Operator × Binary64)) (tier : operator.isMultiplicative = false) :
    products first ((operator, value) :: rest) =
      products value rest >>= fun remaining =>
        .ok ⟨first, (operator, remaining.first) :: remaining.rest⟩ := by
  rw [products, if_neg (by simp [tier])]
  rfl

/-- Taking the products leaves additive operators only. -/
theorem additive_of_products {rest : List (Operator × Binary64)} :
    ∀ {first : Binary64} {chain : Chain}, products first rest = .ok chain →
      ∀ pair ∈ chain.rest, pair.1.isMultiplicative = false := by
  induction rest with
  | nil =>
      intro first chain taken
      cases taken
      simp
  | cons pair rest inductionHypothesis =>
      obtain ⟨operator, value⟩ := pair
      intro first chain taken
      cases tier : operator.isMultiplicative with
      | true =>
          rw [products_cons_of_multiplicative _ _ _ tier] at taken
          obtain ⟨product, _, takenRest⟩ := bind_eq_ok_iff.mp taken
          exact inductionHypothesis takenRest
      | false =>
          rw [products_cons_of_additive _ _ _ tier] at taken
          obtain ⟨remaining, takenRest, same⟩ := bind_eq_ok_iff.mp taken
          cases same
          intro pair member
          rcases List.mem_cons.mp member with rfl | later
          · exact tier
          · exact inductionHypothesis takenRest pair later

/-- An additive operator keeps the products on its sides apart. -/
theorem products_join {operator : Operator} (tier : operator.isMultiplicative = false)
    {right rightProducts : Chain} (takenRight : products right.first right.rest = .ok rightProducts)
    {rest : List (Operator × Binary64)} :
    ∀ {first : Binary64} {leftProducts : Chain}, products first rest = .ok leftProducts →
      products first (rest ++ (operator, right.first) :: right.rest) =
        .ok (leftProducts.join operator rightProducts) := by
  induction rest with
  | nil =>
      intro first leftProducts takenLeft
      cases takenLeft
      rw [List.nil_append, products_cons_of_additive _ _ _ tier, takenRight]
      rfl
  | cons pair rest inductionHypothesis =>
      obtain ⟨other, value⟩ := pair
      intro first leftProducts takenLeft
      rw [List.cons_append]
      cases otherTier : other.isMultiplicative with
      | true =>
          rw [products_cons_of_multiplicative _ _ _ otherTier] at takenLeft ⊢
          obtain ⟨product, applied, takenRest⟩ := bind_eq_ok_iff.mp takenLeft
          exact bind_eq_ok_iff.mpr ⟨product, applied, inductionHypothesis takenRest⟩
      | false =>
          rw [products_cons_of_additive _ _ _ otherTier] at takenLeft ⊢
          obtain ⟨remaining, takenRest, same⟩ := bind_eq_ok_iff.mp takenLeft
          cases same
          exact bind_eq_ok_iff.mpr ⟨_, inductionHypothesis takenRest, rfl⟩

/-- A multiplicative operator extends a chain that is a single product. -/
theorem products_join_number {operator : Operator} (tier : operator.isMultiplicative = true)
    {value right product : Binary64} (applied : operator.apply value right = .ok product)
    {rest : List (Operator × Binary64)} :
    ∀ {first : Binary64}, products first rest = .ok ⟨value, []⟩ →
      products first (rest ++ [(operator, right)]) = .ok ⟨product, []⟩ := by
  induction rest with
  | nil =>
      intro first taken
      cases taken
      rw [List.nil_append, products_cons_of_multiplicative _ _ _ tier, applied]
      rfl
  | cons pair rest inductionHypothesis =>
      obtain ⟨other, next⟩ := pair
      intro first taken
      rw [List.cons_append]
      cases otherTier : other.isMultiplicative with
      | true =>
          rw [products_cons_of_multiplicative _ _ _ otherTier] at taken ⊢
          obtain ⟨partialProduct, appliedOther, takenRest⟩ := bind_eq_ok_iff.mp taken
          exact bind_eq_ok_iff.mpr ⟨partialProduct, appliedOther, inductionHypothesis takenRest⟩
      | false =>
          rw [products_cons_of_additive _ _ _ otherTier] at taken
          obtain ⟨remaining, _, same⟩ := bind_eq_ok_iff.mp taken
          cases same

/-! ### Sums -/

theorem total_append {pairs : List (Operator × Binary64)} {value : Binary64}
    (later : List (Operator × Binary64)) :
    ∀ {first : Binary64}, total first pairs = .ok value →
      total first (pairs ++ later) = total value later := by
  induction pairs with
  | nil =>
      intro first summed
      cases summed
      rfl
  | cons pair rest inductionHypothesis =>
      intro first summed
      obtain ⟨subtotal, applied, summedRest⟩ := bind_eq_ok_iff.mp summed
      rw [List.cons_append, total, applied]
      exact inductionHypothesis summedRest

/-- A chain that is a single product has that product as its value. -/
theorem value_of_products {chain : Chain} {product : Binary64}
    (taken : products chain.first chain.rest = .ok ⟨product, []⟩) :
    chain.value = .ok product := by
  rw [value, taken]
  rfl

theorem value_join {operator : Operator} (tier : operator.isMultiplicative = false)
    {left right : Chain} {leftValue rightValue sum : Binary64}
    (leftHas : left.value = .ok leftValue)
    (taken : products right.first right.rest = .ok ⟨rightValue, []⟩)
    (applied : operator.apply leftValue rightValue = .ok sum) :
    (left.join operator right).value = .ok sum := by
  obtain ⟨leftProducts, takenLeft, summed⟩ := bind_eq_ok_iff.mp leftHas
  refine bind_eq_ok_iff.mpr ⟨leftProducts.join operator ⟨rightValue, []⟩, ?_, ?_⟩
  · exact products_join tier taken takenLeft
  · simp only [join]
    rw [total_append _ summed, total, applied]
    rfl

end Reckoner.Chain
