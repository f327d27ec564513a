import Reckoner.Proofs.Reduction.Chain
import Reckoner.Proofs.Reduction.Defect
import Reckoner.Proofs.Reduction.Grouping

/-!
Contract: tokens have a value when the grammar derives them, and the value is
that of their derivation tree.

From the trees to the scan, each tree collapses to flat tokens, and its
category says which chain these are: a number, a chain that is one product, or
any chain. From the scan to the trees, the products of a chain are taken first,
each with the tokens that it came from, and their sum last.

Owns: both directions, and the statement for whole lists of tokens.

Does not own: variables and steps.
-/

namespace Reckoner

open Grammar

/-- The tokens have a derivation tree of the category with this value. -/
def Denotes (level : Level) (tokens : List Token) (value : Binary64) : Prop :=
  ∃ tree : Tree Binary64 level, Derives Token.number? tree tokens ∧ tree.value = .ok value

namespace Denotes

variable {tokens left right : List Token} {value leftValue rightValue : Binary64}
  {operator : Operator} {link : Token}

theorem number {token : Token} (reads : token.number? = some value) :
    Denotes .factor [token] value :=
  ⟨.operand value, .operand reads, rfl⟩

theorem group {opening closing : Token} (opens : opening.Opens)
    (inside : Denotes .sum tokens value) (closes : closing.Closes) :
    Denotes .factor (opening :: (tokens ++ [closing])) value := by
  obtain ⟨tree, derived, has⟩ := inside
  exact ⟨.group tree, .group opens derived closes, has⟩

theorem factor (denotes : Denotes .factor tokens value) : Denotes .product tokens value := by
  obtain ⟨tree, derived, has⟩ := denotes
  exact ⟨.factor tree, .factor derived, has⟩

theorem product (denotes : Denotes .product tokens value) : Denotes .sum tokens value := by
  obtain ⟨tree, derived, has⟩ := denotes
  exact ⟨.product tree, .product derived, has⟩

theorem multiply (leftDenotes : Denotes .product left leftValue)
    (tier : operator.isMultiplicative = true) (names : link.Names operator)
    (rightDenotes : Denotes .factor right rightValue)
    (applied : operator.apply leftValue rightValue = .ok value) :
    Denotes .product (left ++ link :: right) value := by
  obtain ⟨leftTree, leftDerived, leftHas⟩ := leftDenotes
  obtain ⟨rightTree, rightDerived, rightHas⟩ := rightDenotes
  exact ⟨.multiply leftTree operator tier rightTree, .multiply leftDerived names rightDerived,
    Tree.value_multiply_eq_ok_iff.mpr ⟨leftValue, rightValue, leftHas, rightHas, applied⟩⟩

theorem add (leftDenotes : Denotes .sum left leftValue)
    (tier : operator.isMultiplicative = false) (names : link.Names operator)
    (rightDenotes : Denotes .product right rightValue)
    (applied : operator.apply leftValue rightValue = .ok value) :
    Denotes .sum (left ++ link :: right) value := by
  obtain ⟨leftTree, leftDerived, leftHas⟩ := leftDenotes
  obtain ⟨rightTree, rightDerived, rightHas⟩ := rightDenotes
  exact ⟨.add leftTree operator tier rightTree, .add leftDerived names rightDerived,
    Tree.value_add_eq_ok_iff.mpr ⟨leftValue, rightValue, leftHas, rightHas, applied⟩⟩

end Denotes

/-! ### From chains to trees -/

/-- The tokens are the operators of the pairs, each followed by tokens of the
category that denote its number. -/
inductive PairsDenote (level : Level) : List (Operator × Binary64) → List Token → Prop where
  | nil : PairsDenote level [] []
  | cons {operator : Operator} {value : Binary64} {pairs : List (Operator × Binary64)}
      {link : Token} {tokens later : List Token} (names : link.Names operator)
      (denotes : Denotes level tokens value) (rest : PairsDenote level pairs later) :
      PairsDenote level ((operator, value) :: pairs) (link :: (tokens ++ later))

/-- The tokens are a chain in which every number may stand for a group. -/
def ChainDenotes (chain : Chain) (tokens : List Token) : Prop :=
  ∃ head later, tokens = head ++ later ∧ Denotes .factor head chain.first ∧
    PairsDenote .factor chain.rest later

private theorem products_denote {pairs : List (Operator × Binary64)} :
    ∀ {first : Binary64} {sums : Chain} {tokens later : List Token},
      Chain.products first pairs = .ok sums → Denotes .product tokens first →
        PairsDenote .factor pairs later →
          ∃ head rest, tokens ++ later = head ++ rest ∧ Denotes .product head sums.first ∧
            PairsDenote .product sums.rest rest := by
  induction pairs with
  | nil =>
      intro first sums tokens later taken denotes pairsDenote
      cases taken
      cases pairsDenote
      exact ⟨tokens, [], rfl, denotes, .nil⟩
  | cons pair pairs inductionHypothesis =>
      obtain ⟨operator, value⟩ := pair
      intro first sums tokens later taken denotes pairsDenote
      cases pairsDenote with
      | @cons _ _ _ link factorTokens later names factorDenotes rest =>
      cases tier : operator.isMultiplicative with
      | true =>
          -- The product grows by one factor.
          rw [Chain.products_cons_of_multiplicative _ _ _ tier] at taken
          obtain ⟨product, applied, takenRest⟩ := bind_eq_ok_iff.mp taken
          have grown := denotes.multiply tier names factorDenotes applied
          obtain ⟨head, rest, split, headDenotes, restDenote⟩ :=
            inductionHypothesis takenRest grown rest
          refine ⟨head, rest, ?_, headDenotes, restDenote⟩
          rw [← split]
          simp
      | false =>
          -- The product is complete, and the factor begins the next one.
          rw [Chain.products_cons_of_additive _ _ _ tier] at taken
          obtain ⟨remaining, takenRest, same⟩ := bind_eq_ok_iff.mp taken
          cases same
          obtain ⟨head, rest, split, headDenotes, restDenote⟩ :=
            inductionHypothesis takenRest factorDenotes.factor rest
          refine ⟨tokens, link :: (head ++ rest), ?_, denotes, .cons names headDenotes restDenote⟩
          rw [split]

private theorem total_denotes {pairs : List (Operator × Binary64)} {sum : Binary64} :
    ∀ {first : Binary64} {tokens later : List Token},
      Chain.total first pairs = .ok sum →
        (∀ pair ∈ pairs, pair.1.isMultiplicative = false) → Denotes .sum tokens first →
          PairsDenote .product pairs later → Denotes .sum (tokens ++ later) sum := by
  induction pairs with
  | nil =>
      intro first tokens later summed _ denotes pairsDenote
      cases summed
      cases pairsDenote
      rw [List.append_nil]
      exact denotes
  | cons pair pairs inductionHypothesis =>
      obtain ⟨operator, value⟩ := pair
      intro first tokens later summed additive denotes pairsDenote
      cases pairsDenote with
      | @cons _ _ _ link productTokens later names productDenotes rest =>
      obtain ⟨subtotal, applied, summedRest⟩ := bind_eq_ok_iff.mp summed
      have tier := additive _ (List.mem_cons_self ..)
      have grown := denotes.add tier names productDenotes applied
      have summedAll := inductionHypothesis summedRest
        (fun pair member => additive pair (List.mem_cons_of_mem _ member)) grown rest
      simpa using summedAll

theorem ChainDenotes.denotes {chain : Chain} {tokens : List Token} {value : Binary64}
    (chainDenotes : ChainDenotes chain tokens) (has : chain.value = .ok value) :
    Denotes .sum tokens value := by
  obtain ⟨head, later, rfl, headDenotes, laterDenote⟩ := chainDenotes
  obtain ⟨sums, taken, summed⟩ := bind_eq_ok_iff.mp has
  obtain ⟨first, rest, split, firstDenotes, restDenote⟩ :=
    products_denote taken headDenotes.factor laterDenote
  rw [split]
  exact total_denotes summed (Chain.additive_of_products taken) firstDenotes.product restDenote

/-- A chain read from flat tokens is spelled by the tokens that collapse to
them. The two parts speak of the list from its first number on and from its
first operator on, and each needs the other for the rest. -/
theorem chainDenotes_of_collapses {tokens flat : List Token} (collapses : Collapses tokens flat) :
    (∀ chain, Chain.ofTokens flat = .ok chain → ChainDenotes chain tokens) ∧
      ∀ pairs, Chain.links flat = .ok pairs → PairsDenote .factor pairs tokens := by
  induction collapses with
  | nil =>
      constructor
      · intro chain read
        cases read
      · intro pairs read
        cases read
        exact .nil
  | @keep token tokens flat _ _ _ inductionHypothesis =>
      constructor
      · intro chain read
        obtain ⟨first, pairs, readFirst, readPairs, rfl⟩ := Chain.ofTokens_cons_eq_ok_iff.mp read
        exact ⟨[token], tokens, rfl, .number readFirst, inductionHypothesis.2 pairs readPairs⟩
      · intro pairs read
        obtain ⟨operator, chain, names, readRest, rfl⟩ := Chain.links_cons_eq_ok_iff.mp read
        obtain ⟨head, later, rfl, headDenotes, laterDenote⟩ :=
          inductionHypothesis.1 chain readRest
        exact .cons names headDenotes laterDenote
  | @group opening closing inner innerFlat tokens flat value opens _ reduces closes _
      insideHypothesis restHypothesis =>
      constructor
      · intro chain read
        obtain ⟨first, pairs, readFirst, readPairs, rfl⟩ := Chain.ofTokens_cons_eq_ok_iff.mp read
        obtain ⟨innerChain, readInner, innerHas⟩ := bind_eq_ok_iff.mp reduces
        have innerDenotes := (insideHypothesis.1 innerChain readInner).denotes innerHas
        cases readFirst
        refine ⟨opening :: (inner ++ [closing]), tokens, by simp, ?_,
          restHypothesis.2 pairs readPairs⟩
        exact .group opens innerDenotes closes
      · intro pairs read
        obtain ⟨operator, _, names, _, _⟩ := Chain.links_cons_eq_ok_iff.mp read
        cases names

theorem denotes_of_collapses {tokens flat : List Token} {value : Binary64}
    (collapses : Collapses tokens flat) (reduces : reduce flat = .ok value) :
    Denotes .sum tokens value := by
  obtain ⟨chain, read, has⟩ := bind_eq_ok_iff.mp reduces
  exact ((chainDenotes_of_collapses collapses).1 chain read).denotes has

/-! ### From trees to chains -/

/-- How a category shows in a chain with a value: a factor is a number, a
product is a chain without additive operators, and a sum is any chain. -/
def Grammar.Level.Describes (chain : Chain) (value : Binary64) : Level → Prop
  | .factor => chain = ⟨value, []⟩
  | .product => Chain.products chain.first chain.rest = .ok ⟨value, []⟩
  | .sum => chain.value = .ok value

private theorem collapses_of_derives {level : Level} {tree : Tree Binary64 level}
    {tokens : List Token}
    (derived : Derives Token.number? tree tokens) :
    ∀ {value : Binary64}, tree.value = .ok value →
      ∃ flat chain, Collapses tokens flat ∧ Chain.ofTokens flat = .ok chain ∧
        level.Describes chain value := by
  induction derived with
  | @operand token number reads =>
      intro value has
      cases has
      have collapses : Collapses [token] [token] :=
        .keep (separatesOperands_number?.not_opens reads)
          (separatesOperands_number?.not_closes reads) .nil
      exact ⟨[token], ⟨number, []⟩, collapses,
        Chain.ofTokens_cons_eq_ok_iff.mpr ⟨number, [], reads, rfl, rfl⟩, rfl⟩
  | @group inner opening closing tokens opens _ closes inductionHypothesis =>
      intro value has
      obtain ⟨flat, chain, collapses, read, described⟩ := inductionHypothesis has
      have reduces : reduce flat = .ok value := bind_eq_ok_iff.mpr ⟨chain, read, described⟩
      exact ⟨_, ⟨value, []⟩, .group opens collapses reduces closes .nil,
        Chain.ofTokens_cons_eq_ok_iff.mpr ⟨value, [], rfl, rfl, rfl⟩, rfl⟩
  | factor _ inductionHypothesis =>
      intro value has
      obtain ⟨flat, chain, collapses, read, described⟩ := inductionHypothesis has
      cases described
      exact ⟨flat, _, collapses, read, rfl⟩
  | @multiply left operator tier right link leftTokens rightTokens _ names _ leftHypothesis
      rightHypothesis =>
      intro value has
      obtain ⟨leftValue, rightValue, leftHas, rightHas, applied⟩ :=
        Tree.value_multiply_eq_ok_iff.mp has
      obtain ⟨leftFlat, leftChain, leftCollapses, leftRead, leftDescribed⟩ :=
        leftHypothesis leftHas
      obtain ⟨rightFlat, rightChain, rightCollapses, rightRead, rightDescribed⟩ :=
        rightHypothesis rightHas
      cases rightDescribed
      exact ⟨_, _, leftCollapses.append (rightCollapses.keepOperator names),
        Chain.ofTokens_append leftRead names rightRead,
        Chain.products_join_number tier applied leftDescribed⟩
  | product _ inductionHypothesis =>
      intro value has
      obtain ⟨flat, chain, collapses, read, described⟩ := inductionHypothesis has
      exact ⟨flat, chain, collapses, read, Chain.value_of_products described⟩
  | @add left operator tier right link leftTokens rightTokens _ names _ leftHypothesis
      rightHypothesis =>
      intro value has
      obtain ⟨leftValue, rightValue, leftHas, rightHas, applied⟩ :=
        Tree.value_add_eq_ok_iff.mp has
      obtain ⟨leftFlat, leftChain, leftCollapses, leftRead, leftDescribed⟩ :=
        leftHypothesis leftHas
      obtain ⟨rightFlat, rightChain, rightCollapses, rightRead, rightDescribed⟩ :=
        rightHypothesis rightHas
      exact ⟨_, _, leftCollapses.append (rightCollapses.keepOperator names),
        Chain.ofTokens_append leftRead names rightRead,
        Chain.value_join tier leftDescribed rightDescribed applied⟩

/-- A list of tokens has a value when it is a sum with that value. -/
theorem valueOfTokens_eq_ok_iff_denotes {tokens : List Token} {value : Binary64} :
    valueOfTokens tokens = .ok value ↔ Denotes .sum tokens value := by
  constructor
  · intro evaluated
    obtain ⟨flat, scanned, reduces⟩ := bind_eq_ok_iff.mp evaluated
    exact denotes_of_collapses (flatten_eq_ok_iff.mp scanned) reduces
  · rintro ⟨tree, derived, has⟩
    obtain ⟨flat, chain, collapses, read, described⟩ := collapses_of_derives derived has
    exact bind_eq_ok_iff.mpr ⟨flat, flatten_eq_ok_iff.mpr collapses,
      bind_eq_ok_iff.mpr ⟨chain, read, described⟩⟩

private theorem valueOfTokens_eq_error_of_underivable {tokens : List Token}
    (underivable : ¬ ∃ tree : Tree Binary64 .sum, Derives Token.number? tree tokens) :
    ∃ error, valueOfTokens tokens = .error error := by
  cases evaluated : valueOfTokens tokens with
  | error error => exact ⟨error, rfl⟩
  | ok value =>
      obtain ⟨tree, derived, _⟩ := valueOfTokens_eq_ok_iff_denotes.mp evaluated
      exact absurd ⟨tree, derived⟩ underivable

/-- **Reduction computes the value of the derivation tree.** Tokens have at most
one tree. Those that have none are refused, and among them are all tokens with
a defect. -/
theorem valueOfTokens_exact (tokens : List Token) :
    (∀ value, valueOfTokens tokens = .ok value ↔
      ∃ tree : Tree Binary64 .sum,
        Derives Token.number? tree tokens ∧ tree.value = .ok value) ∧
    (∀ tree other : Tree Binary64 .sum, Derives Token.number? tree tokens →
      Derives Token.number? other tokens → tree = other) ∧
    ((¬ ∃ tree : Tree Binary64 .sum, Derives Token.number? tree tokens) →
      ∃ error, valueOfTokens tokens = .error error) ∧
    (Defective tokens → (¬ ∃ tree : Tree Binary64 .sum, Derives Token.number? tree tokens) ∧
      ∃ error, valueOfTokens tokens = .error error) := by
  refine ⟨fun value => valueOfTokens_eq_ok_iff_denotes, ?_,
    valueOfTokens_eq_error_of_underivable, ?_⟩
  · intro tree other derived derivedToo
    exact derived.unique separatesOperands_number? derivedToo rfl
  · intro defective
    have underivable : ¬ ∃ tree : Tree Binary64 .sum, Derives Token.number? tree tokens :=
      fun ⟨tree, derived⟩ => not_derives_of_defective defective tree derived
    exact ⟨underivable, valueOfTokens_eq_error_of_underivable underivable⟩

end Reckoner
