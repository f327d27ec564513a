import Mathlib.Data.List.Chain
import Reckoner.Proofs.Grammar.Unambiguity

/-!
Contract: which tokens can stand side by side in a derivation.

Derived tokens lead from an operand to an operand. After an operand, or after
the group that closes, an operator or a closing parenthesis follows; after an
operator, or where a group opens, an operand or an open parenthesis follows.
No token is anything else.

Owns: these facts, for every reading of operands.

Does not own: what is made of tokens that no tree derives.
-/

namespace Reckoner

/-- The token is one of the known operators. -/
def Token.Links (token : Token) : Prop :=
  ∃ operator, token.Names operator

namespace Grammar

variable {α : Type} {read : Token → Option α}

def IsOperand (read : Token → Option α) (token : Token) : Prop :=
  ∃ leaf, read token = some leaf

/-- The token can be the first of an expression. -/
def Begins (read : Token → Option α) (token : Token) : Prop :=
  IsOperand read token ∨ token.Opens

/-- The token can be the last of an expression. -/
def Ends (read : Token → Option α) (token : Token) : Prop :=
  IsOperand read token ∨ token.Closes

/-- The token has a place in the grammar. -/
def IsKnown (read : Token → Option α) (token : Token) : Prop :=
  IsOperand read token ∨ token.Opens ∨ token.Closes ∨ token.Links

theorem Begins.not_inner (separates : SeparatesOperands read) {token : Token}
    (begins : Begins read token) : ¬ (token.Links ∨ token.Closes) := by
  rcases begins with ⟨leaf, reads⟩ | opens
  · rintro (⟨operator, names⟩ | closes)
    · exact separates.not_names reads operator names
    · exact separates.not_closes reads closes
  · rintro (⟨operator, names⟩ | closes)
    · exact names.not_opens opens
    · exact opens.not_closes closes

theorem Ends.not_inner (separates : SeparatesOperands read) {token : Token}
    (ends : Ends read token) : ¬ (token.Links ∨ token.Opens) := by
  rcases ends with ⟨leaf, reads⟩ | closes
  · rintro (⟨operator, names⟩ | opens)
    · exact separates.not_names reads operator names
    · exact separates.not_opens reads opens
  · rintro (⟨operator, names⟩ | opens)
    · exact names.not_closes closes
    · exact opens.not_closes closes

/-- The second token can follow the first. -/
def Joins (read : Token → Option α) (left right : Token) : Prop :=
  Ends read left ∧ (right.Links ∨ right.Closes) ∨
    (left.Links ∨ left.Opens) ∧ Begins read right

/-- Tokens that lead from the beginning of an expression to its end. -/
structure Spans (read : Token → Option α) (tokens : List Token) : Prop where
  begins : ∃ first, tokens.head? = some first ∧ Begins read first
  ends : ∃ last, tokens.getLast? = some last ∧ Ends read last
  joined : tokens.IsChain (Joins read)

namespace Spans

variable {tokens left right : List Token}

theorem singleton {token : Token} (isOperand : IsOperand read token) : Spans read [token] where
  begins := ⟨token, rfl, .inl isOperand⟩
  ends := ⟨token, rfl, .inl isOperand⟩
  joined := .singleton token

theorem group {opening closing : Token} (opens : opening.Opens) (inside : Spans read tokens)
    (closes : closing.Closes) : Spans read (opening :: (tokens ++ [closing])) where
  begins := ⟨opening, rfl, .inr opens⟩
  ends := ⟨closing, by rw [← List.cons_append, List.getLast?_concat], .inr closes⟩
  joined := by
    obtain ⟨first, isFirst, begins⟩ := inside.begins
    obtain ⟨last, isLast, ends⟩ := inside.ends
    refine .cons (.append inside.joined (.singleton closing) ?_) ?_
    · intro before isBefore after isAfter
      cases isLast.symm.trans isBefore
      cases isAfter
      exact .inl ⟨ends, .inr closes⟩
    · intro after isAfter
      rw [List.head?_append, isFirst] at isAfter
      cases isAfter
      exact .inr ⟨.inr opens, begins⟩

theorem link {link : Token} (leftSpans : Spans read left) (links : link.Links)
    (rightSpans : Spans read right) : Spans read (left ++ link :: right) where
  begins := by
    obtain ⟨first, isFirst, begins⟩ := leftSpans.begins
    exact ⟨first, by rw [List.head?_append, isFirst, Option.some_or], begins⟩
  ends := by
    obtain ⟨last, isLast, ends⟩ := rightSpans.ends
    exact ⟨last, by rw [List.getLast?_append, List.getLast?_cons, isLast]; rfl, ends⟩
  joined := by
    obtain ⟨first, isFirst, begins⟩ := rightSpans.begins
    obtain ⟨last, isLast, ends⟩ := leftSpans.ends
    refine .append leftSpans.joined (.cons rightSpans.joined ?_) ?_
    · intro after isAfter
      cases isFirst.symm.trans isAfter
      exact .inr ⟨.inl links, begins⟩
    · intro before isBefore after isAfter
      cases isLast.symm.trans isBefore
      cases isAfter
      exact .inl ⟨ends, .inl links⟩

end Spans

namespace Derives

variable {level : Level} {tree : Tree α level} {tokens : List Token}

theorem spans (derived : Derives read tree tokens) : Spans read tokens := by
  induction derived with
  | operand reads => exact .singleton ⟨_, reads⟩
  | group opens _ closes inside => exact .group opens inside closes
  | factor _ whole => exact whole
  | multiply _ names _ left right => exact left.link ⟨_, names⟩ right
  | product _ whole => exact whole
  | add _ names _ left right => exact left.link ⟨_, names⟩ right

/-- Adjacent tokens of a derivation can follow one another. -/
theorem joins_of_adjacent {before after : List Token} {left right : Token}
    (derived : Derives read tree (before ++ left :: right :: after)) : Joins read left right :=
  (List.isChain_append_cons_cons.mp derived.spans.joined).2.1

theorem known (derived : Derives read tree tokens) : ∀ token ∈ tokens, IsKnown read token := by
  induction derived with
  | operand reads => exact List.forall_mem_singleton.mpr (.inl ⟨_, reads⟩)
  | group opens _ closes inside =>
      exact List.forall_mem_cons.mpr ⟨.inr (.inl opens), List.forall_mem_append.mpr
        ⟨inside, List.forall_mem_singleton.mpr (.inr (.inr (.inl closes)))⟩⟩
  | factor _ whole => exact whole
  | multiply _ names _ left right =>
      exact List.forall_mem_append.mpr
        ⟨left, List.forall_mem_cons.mpr ⟨.inr (.inr (.inr ⟨_, names⟩)), right⟩⟩
  | product _ whole => exact whole
  | add _ names _ left right =>
      exact List.forall_mem_append.mpr
        ⟨left, List.forall_mem_cons.mpr ⟨.inr (.inr (.inr ⟨_, names⟩)), right⟩⟩

end Derives

end Grammar

end Reckoner
