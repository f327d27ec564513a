import Reckoner.Proofs.Evaluation.Effect
import Reckoner.Proofs.Reduction.Derivation

/-!
Contract: a value does not depend on columns.

Columns are shown by errors and by nothing else. Main statement: tokens with the
lexemes of tokens that have a value have the same value, and resolving them
leaves the same table.

Owns: look-ups, resolved tokens and values under other columns.

Does not own: the columns that errors show.
-/

namespace Reckoner

open Grammar

variable {tokens others resolved : List Token} {table left : Table} {value : Binary64}

/-! ### Resolving -/

theorem Token.runOn_resolve_of_lexeme {token other result : Token}
    (same : other.lexeme = token.lexeme)
    (ran : token.resolve.runOn table = (.ok result, left)) :
    ∃ otherResult, other.resolve.runOn table = (.ok otherResult, left) ∧
      otherResult.lexeme = result.lexeme := by
  obtain ⟨lexeme, column⟩ := token
  obtain ⟨_, otherColumn⟩ := other
  cases same
  cases lexeme with
  | identifier name =>
      obtain ⟨value, between, found, returned⟩ := EvalM.runOn_bind_eq_ok_iff.mp ran
      cases returned
      have foundToo : (lookUp name otherColumn).runOn table = (.ok value, left) :=
        runOn_lookUp_eq_ok_iff.mpr (runOn_lookUp_eq_ok_iff.mp found)
      exact ⟨⟨.number value, otherColumn⟩, EvalM.runOn_bind_of_ok foundToo, rfl⟩
  | step name direction placement =>
      obtain ⟨old, between, found, stepped⟩ := EvalM.runOn_bind_eq_ok_iff.mp ran
      have foundToo : (lookUp name otherColumn).runOn table = (.ok old, between) :=
        runOn_lookUp_eq_ok_iff.mpr (runOn_lookUp_eq_ok_iff.mp found)
      cases placement with
      | before =>
          cases stepped
          exact ⟨⟨.number (direction.apply old), otherColumn⟩,
            EvalM.runOn_bind_of_ok foundToo, rfl⟩
      | after =>
          cases stepped
          exact ⟨⟨.number old, otherColumn⟩, EvalM.runOn_bind_of_ok foundToo, rfl⟩
  | _ =>
      cases ran
      exact ⟨_, rfl, rfl⟩

theorem runOn_resolveAll_of_lexemes :
    ∀ {others resolved : List Token} {table : Table},
      others.map Token.lexeme = tokens.map Token.lexeme →
        (resolveAll tokens).runOn table = (.ok resolved, left) →
          ∃ otherResolved, (resolveAll others).runOn table = (.ok otherResolved, left) ∧
            otherResolved.map Token.lexeme = resolved.map Token.lexeme := by
  induction tokens with
  | nil =>
      intro others resolved table same ran
      cases List.map_eq_nil_iff.mp same
      exact ⟨resolved, ran, rfl⟩
  | cons token rest inductionHypothesis =>
      intro others resolved table same ran
      obtain ⟨other, otherRest, rfl, sameFirst, sameRest⟩ := List.map_eq_cons_iff.mp same
      obtain ⟨first, remaining, between, firstRan, restRan, rfl⟩ :=
        runOn_resolveAll_cons_eq_ok_iff.mp ran
      obtain ⟨otherFirst, otherFirstRan, firstAlike⟩ :=
        Token.runOn_resolve_of_lexeme sameFirst firstRan
      obtain ⟨otherRemaining, otherRestRan, restAlike⟩ := inductionHypothesis sameRest restRan
      refine ⟨otherFirst :: otherRemaining, runOn_resolveAll_cons_eq_ok_iff.mpr
        ⟨otherFirst, otherRemaining, between, otherFirstRan, otherRestRan, rfl⟩, ?_⟩
      rw [List.map_cons, List.map_cons, firstAlike, restAlike]

/-! ### Values -/

theorem Token.number?_of_lexeme {token other : Token} (same : other.lexeme = token.lexeme) :
    other.number? = token.number? := by
  rw [number?, number?, same]

/-- A derivation tree derives every list of tokens with these lexemes. -/
theorem Grammar.Derives.of_lexemes {level : Level} {tree : Tree Binary64 level}
    (derived : Derives Token.number? tree tokens) :
    ∀ {others : List Token}, others.map Token.lexeme = tokens.map Token.lexeme →
      Derives Token.number? tree others := by
  induction derived with
  | operand reads =>
      intro others same
      obtain ⟨other, rfl, sameLexeme⟩ := List.map_eq_singleton_iff.mp same
      exact .operand ((Token.number?_of_lexeme sameLexeme).trans reads)
  | group opens _ closes inductionHypothesis =>
      intro others same
      obtain ⟨opening, rest, rfl, sameOpening, sameRest⟩ := List.map_eq_cons_iff.mp same
      rw [List.map_append] at sameRest
      obtain ⟨inner, last, rfl, sameInner, sameLast⟩ := List.map_eq_append_iff.mp sameRest
      obtain ⟨closing, rfl, sameClosing⟩ := List.map_eq_singleton_iff.mp sameLast
      exact .group (opens.imp fun _ isOpen => sameOpening.trans isOpen)
        (inductionHypothesis sameInner) (closes.imp fun _ isClosed => sameClosing.trans isClosed)
  | factor _ inductionHypothesis => exact fun same => .factor (inductionHypothesis same)
  | product _ inductionHypothesis => exact fun same => .product (inductionHypothesis same)
  | multiply _ names _ leftHypothesis rightHypothesis =>
      intro others same
      rw [List.map_append] at same
      obtain ⟨before, rest, rfl, sameBefore, sameRest⟩ := List.map_eq_append_iff.mp same
      obtain ⟨link, after, rfl, sameLink, sameAfter⟩ := List.map_eq_cons_iff.mp sameRest
      exact .multiply (leftHypothesis sameBefore) (sameLink.trans names)
        (rightHypothesis sameAfter)
  | add _ names _ leftHypothesis rightHypothesis =>
      intro others same
      rw [List.map_append] at same
      obtain ⟨before, rest, rfl, sameBefore, sameRest⟩ := List.map_eq_append_iff.mp same
      obtain ⟨link, after, rfl, sameLink, sameAfter⟩ := List.map_eq_cons_iff.mp sameRest
      exact .add (leftHypothesis sameBefore) (sameLink.trans names) (rightHypothesis sameAfter)

/-- **A value does not depend on columns.** -/
theorem valueOfTokens_of_lexemes (same : others.map Token.lexeme = tokens.map Token.lexeme)
    (evaluated : valueOfTokens tokens = .ok value) : valueOfTokens others = .ok value := by
  obtain ⟨tree, derived, has⟩ := valueOfTokens_eq_ok_iff_denotes.mp evaluated
  exact valueOfTokens_eq_ok_iff_denotes.mpr ⟨tree, derived.of_lexemes same, has⟩

end Reckoner
