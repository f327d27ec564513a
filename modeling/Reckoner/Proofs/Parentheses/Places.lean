import Mathlib.Order.Bounds.Image
import Reckoner.Proofs.Evaluation.Resolution
import Reckoner.Proofs.Parentheses.Partners

/-!
Contract: what decides where parentheses without partner stand.

Whether a parenthesis has a partner depends on the places of the open and the
closing parentheses and on nothing else about the tokens. So resolving variables
and steps, which keeps every parenthesis and every column, keeps the parentheses
without partner in their places, and paired tokens in front only move them.

Owns: parentheses without partner under other tokens at the same depths, behind
paired tokens, and after resolution.

Does not own: what the scan for groups reports.
-/

namespace Reckoner

open Grammar (Balanced depth depthChange)

variable {tokens others inner left right flat : List Token} {kind : Token → Prop}
  {start place : Nat}

/-! ### Depths -/

namespace Token

theorem opens_iff_depthChange {token : Token} : token.Opens ↔ depthChange token = 1 := by
  refine ⟨Grammar.depthChange_of_opens, fun level => ?_⟩
  cases same : token.lexeme with
  | openParen spelling => exact ⟨spelling, same⟩
  | _ => simp [depthChange, same] at level

theorem closes_iff_depthChange {token : Token} : token.Closes ↔ depthChange token = -1 := by
  refine ⟨Grammar.depthChange_of_closes, fun level => ?_⟩
  cases same : token.lexeme with
  | closeParen spelling => exact ⟨spelling, same⟩
  | _ => simp [depthChange, same] at level

theorem map_depthChange_of_lexemes (same : others.map Token.lexeme = tokens.map Token.lexeme) :
    others.map depthChange = tokens.map depthChange := by
  have factors : depthChange = (fun lexeme => depthChange ⟨lexeme, 1⟩) ∘ Token.lexeme := rfl
  rw [factors, ← List.map_map, same, List.map_map]

end Token

/-! ### Tokens at the same depths -/

theorem Grammar.Balanced.of_depthChange (balanced : Balanced tokens)
    (same : others.map depthChange = tokens.map depthChange) : Balanced others where
  depth_eq_zero := by
    rw [depth, same]
    exact balanced.depth_eq_zero
  prefix_nonneg := by
    intro before after split
    rw [split, List.map_append] at same
    obtain ⟨started, rest, parted, sameStart, _⟩ := List.map_eq_append_iff.mp same.symm
    rw [depth, ← sameStart]
    exact balanced.prefix_nonneg started rest parted

theorem GroupAt.of_depthChange (group : GroupAt tokens start inner)
    (same : others.map depthChange = tokens.map depthChange) :
    ∃ otherInner, otherInner.length = inner.length ∧ GroupAt others start otherInner := by
  obtain ⟨before, after, opening, closing, rfl, rfl, opens, closes, balanced⟩ := group
  rw [List.map_append] at same
  obtain ⟨started, rest, rfl, sameBefore, sameRest⟩ := List.map_eq_append_iff.mp same
  obtain ⟨first, behind, rfl, sameFirst, sameBehind⟩ := List.map_eq_cons_iff.mp sameRest
  rw [List.map_append] at sameBehind
  obtain ⟨inside, ending, rfl, sameInner, sameEnding⟩ := List.map_eq_append_iff.mp sameBehind
  obtain ⟨last, later, rfl, sameLast, _⟩ := List.map_eq_cons_iff.mp sameEnding
  have sameStart : started.length = before.length := by
    simpa using congrArg List.length sameBefore
  have sameLength : inside.length = inner.length := by
    simpa using congrArg List.length sameInner
  rw [Token.opens_iff_depthChange, ← sameFirst, ← Token.opens_iff_depthChange] at opens
  rw [Token.closes_iff_depthChange, ← sameLast, ← Token.closes_iff_depthChange] at closes
  exact ⟨inside, sameLength, started, later, first, last, rfl, sameStart, opens, closes,
    balanced.of_depthChange sameInner⟩

theorem HasPartner.of_depthChange (partner : HasPartner tokens place)
    (same : others.map depthChange = tokens.map depthChange) : HasPartner others place := by
  obtain ⟨start, inner, group, isEnd⟩ := partner
  obtain ⟨otherInner, sameLength, otherGroup⟩ := group.of_depthChange same
  exact ⟨start, otherInner, otherGroup, by rwa [sameLength]⟩

/-- Parentheses of a kind without partner stand at the same places in all tokens
with the same depths. -/
theorem unpaired_of_depthChange {level : Int}
    (isKind : ∀ token, kind token ↔ depthChange token = level)
    (same : others.map depthChange = tokens.map depthChange) :
    unpaired kind others = unpaired kind tokens := by
  have stands (list : List Token) (place : Nat) :
      (∃ token, list[place]? = some token ∧ kind token) ↔
        (list.map depthChange)[place]? = some level := by
    simp only [isKind, List.getElem?_map, Option.map_eq_some_iff]
  have alone (place : Nat) : HasPartner others place ↔ HasPartner tokens place :=
    ⟨fun partner => partner.of_depthChange same.symm,
      fun partner => partner.of_depthChange same⟩
  ext place
  refine and_congr ?_ (not_congr (alone place))
  rw [stands, stands, same]

/-! ### Behind paired tokens -/

/-- A parenthesis without partner behind tokens that collapse has none among all
the tokens either. -/
theorem Collapses.unpaired_append (collapses : Collapses left flat)
    (parentheses : ∀ token, kind token → token.IsParenthesis) :
    unpaired kind (left ++ right) = (left.length + ·) '' unpaired kind right := by
  ext place
  constructor
  · intro lacks
    rcases Reckoner.unpaired_append lacks with inLeft | ⟨later, inRight, rfl⟩
    · rw [collapses.unpaired_eq_empty parentheses] at inLeft
      exact inLeft.elim
    · exact ⟨later, inRight, rfl⟩
  · rintro ⟨later, ⟨⟨token, found, isKind⟩, alone⟩, rfl⟩
    refine ⟨⟨token, ?_, isKind⟩, ?_⟩
    · rw [List.getElem?_append_right (Nat.le_add_right _ _), Nat.add_sub_cancel_left]
      exact found
    · rintro ⟨start, inner, group, isEnd⟩
      dsimp only at isEnd
      rcases group.of_append collapses.balanced with before | ⟨behind, rfl, inRight⟩
      · omega
      · exact alone ⟨behind, inner, inRight, by omega⟩

theorem Collapses.of_no_parenthesis (plain : ∀ token ∈ tokens, ¬ token.IsParenthesis) :
    Collapses tokens tokens := by
  induction tokens with
  | nil => exact .nil
  | cons token rest inductionHypothesis =>
      have ⟨notParenthesis, plainRest⟩ := List.forall_mem_cons.mp plain
      exact .keep (fun opens => notParenthesis (.inl opens))
        (fun closes => notParenthesis (.inr closes)) (inductionHypothesis plainRest)

/-! ### After resolution -/

theorem Token.runOn_resolve_keeps {token result : Token} {table left : Table}
    (ran : token.resolve.runOn table = (.ok result, left)) :
    result.column = token.column ∧ depthChange result = depthChange token := by
  rcases Token.resolve_eq_ok_iff.mp ran with ⟨_, rfl, _⟩ | ⟨operand, value, reads, _, rfl⟩
  · exact ⟨rfl, rfl⟩
  · refine ⟨rfl, ?_⟩
    obtain ⟨lexeme, column⟩ := token
    cases lexeme with
    | number _ | identifier _ | step _ _ _ => rfl
    | _ => cases reads

/-- Resolving tokens keeps their columns and their depths. -/
theorem runOn_resolveAll_keeps :
    ∀ {tokens resolved : List Token} {table left : Table},
      (resolveAll tokens).runOn table = (.ok resolved, left) →
        resolved.map Token.column = tokens.map Token.column ∧
          resolved.map depthChange = tokens.map depthChange := by
  intro tokens
  induction tokens with
  | nil =>
      intro resolved table left ran
      cases ran
      exact ⟨rfl, rfl⟩
  | cons token rest inductionHypothesis =>
      intro resolved table left ran
      obtain ⟨first, remaining, between, firstRan, restRan, rfl⟩ :=
        runOn_resolveAll_cons_eq_ok_iff.mp ran
      have ⟨sameColumn, sameLevel⟩ := Token.runOn_resolve_keeps firstRan
      have ⟨sameColumns, sameLevels⟩ := inductionHypothesis restRan
      exact ⟨by rw [List.map_cons, List.map_cons, sameColumn, sameColumns],
        by rw [List.map_cons, List.map_cons, sameLevel, sameLevels]⟩

end Reckoner
