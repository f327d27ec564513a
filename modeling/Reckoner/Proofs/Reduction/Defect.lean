import Reckoner.Proofs.Grammar.Adjacency

/-!
Contract: defects that keep tokens from being an expression of numbers.

Owns: the defects, wherever in the tokens and however deep they stand, and
that the grammar derives no tokens with a defect.

Does not own: which error reports a defect.
-/

namespace Reckoner

open Grammar

theorem separatesOperands_number? : SeparatesOperands Token.number? where
  depthChange_eq_zero := by
    intro token value reads
    unfold Token.number? at reads
    split at reads
    · rename_i number same
      simp [depthChange, same]
    · cases reads
  not_names := by
    intro token value reads operator names
    simp [Token.number?, show token.lexeme = _ from names] at reads

/-- The token is an operator that is not known, or a word that should have been
replaced by a number. -/
def Token.IsForeign (token : Token) : Prop :=
  match token.lexeme with
  | .operator symbol => Operator.ofSymbol? symbol = none
  | .identifier _ | .step _ _ _ | .unknown _ => True
  | .number _ | .openParen _ | .closeParen _ => False

private theorem Token.IsForeign.not_known {token : Token} (foreign : token.IsForeign) :
    ¬ IsKnown number? token := by
  unfold IsForeign at foreign
  rintro (⟨value, reads⟩ | ⟨spelling, same⟩ | ⟨spelling, same⟩ | ⟨operator, names⟩)
  · unfold number? at reads
    split at reads
    · rename_i number same
      rw [same] at foreign
      exact foreign
    · cases reads
  · rw [same] at foreign
    exact foreign
  · rw [same] at foreign
    exact foreign
  · rw [show token.lexeme = _ from names] at foreign
    simp at foreign

/-- Tokens with a defect. Groups count as operands. -/
inductive Defective : List Token → Prop where
  | unbalanced {tokens : List Token} (unpaired : ¬ Balanced tokens) : Defective tokens
  | emptyGroup {before after : List Token} {opening closing : Token}
      (opens : opening.Opens) (closes : closing.Closes) :
      Defective (before ++ opening :: closing :: after)
  | adjacentOperands {before after : List Token} {left right : Token}
      (ends : Ends Token.number? left) (begins : Begins Token.number? right) :
      Defective (before ++ left :: right :: after)
  | adjacentOperators {before after : List Token} {left right : Token}
      (leftLinks : left.Links) (rightLinks : right.Links) :
      Defective (before ++ left :: right :: after)
  | foreign {tokens : List Token} {token : Token} (present : token ∈ tokens)
      (foreign : token.IsForeign) : Defective tokens

theorem not_derives_of_defective {tokens : List Token} (defective : Defective tokens)
    {level : Level} (tree : Tree Binary64 level) : ¬ Derives Token.number? tree tokens := by
  have separates := separatesOperands_number?
  intro derived
  cases defective with
  | unbalanced unpaired => exact unpaired (derived.balanced separates)
  | emptyGroup opens closes =>
      rcases derived.joins_of_adjacent with ⟨ends, _⟩ | ⟨_, begins⟩
      · exact ends.not_inner separates (.inr opens)
      · exact begins.not_inner separates (.inr closes)
  | adjacentOperands ends begins =>
      rcases derived.joins_of_adjacent with ⟨_, inner⟩ | ⟨inner, _⟩
      · exact begins.not_inner separates inner
      · exact ends.not_inner separates inner
  | adjacentOperators leftLinks rightLinks =>
      rcases derived.joins_of_adjacent with ⟨ends, _⟩ | ⟨_, begins⟩
      · exact ends.not_inner separates (.inl leftLinks)
      · exact begins.not_inner separates (.inl rightLinks)
  | foreign present foreign => exact foreign.not_known (derived.known _ present)

end Reckoner
