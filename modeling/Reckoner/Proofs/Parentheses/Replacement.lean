import Reckoner.Proofs.Reduction.Grouping

/-!
Contract: a group and its value stand for each other.

What the scan does with the tokens behind it depends on the groups that are open
and on the tokens of the innermost one, and on nothing else that was read. So
tokens that lead from every such state to the same one may be exchanged, however
badly the tokens around them pair. Main statement: a group may be exchanged for
the number that it reduces to.

Owns: interchangeable tokens, and the exchange inside of other tokens.

Does not own: the value of a flat expression.
-/

namespace Reckoner

/-- The scan goes on alike behind either list, whatever is open around it. -/
def Interchangeable (left right : List Token) : Prop :=
  ∀ (groups : List OpenGroup) (current after : List Token),
    flattenFrom groups current (left ++ after) = flattenFrom groups current (right ++ after)

/-- Tokens that collapse to the same ones are interchangeable. -/
theorem Collapses.interchangeable {left right flat : List Token}
    (leftCollapses : Collapses left flat) (rightCollapses : Collapses right flat) :
    Interchangeable left right := by
  intro groups current after
  rw [leftCollapses.flattenFrom_append, rightCollapses.flattenFrom_append]

namespace Interchangeable

variable {left right : List Token}

/-- Equal runs stay equal when a token is put in front of both. -/
theorem cons (agree : Interchangeable left right) (token : Token) :
    Interchangeable (token :: left) (token :: right) := by
  intro groups current after
  rw [List.cons_append, List.cons_append]
  by_cases opens : token.Opens
  · rw [flattenFrom_of_opens opens, flattenFrom_of_opens opens]
    exact agree _ _ _
  by_cases closes : token.Closes
  · cases groups with
    | nil => rw [flattenFrom_of_closes_unpaired closes, flattenFrom_of_closes_unpaired closes]
    | cons group outer =>
        -- The group around is reduced alike, and an error in it hides both lists.
        rw [flattenFrom_of_closes closes, flattenFrom_of_closes closes]
        refine congrArg _ (funext fun value => ?_)
        exact agree _ _ _
  · rw [flattenFrom_of_neither opens closes, flattenFrom_of_neither opens closes]
    exact agree _ _ _

theorem append_left (agree : Interchangeable left right) (before : List Token) :
    Interchangeable (before ++ left) (before ++ right) := by
  induction before with
  | nil => exact agree
  | cons token rest inductionHypothesis => exact inductionHypothesis.cons token

private theorem flatten_eq (agree : Interchangeable left right) (before after : List Token) :
    flatten (before ++ left ++ after) = flatten (before ++ right ++ after) :=
  agree.append_left before [] [] after

end Interchangeable

/-- **A group may be replaced by its value.** The scan of the whole list ends
alike in both forms, with the same tokens at the same columns or with the same
error, even where the tokens around the group do not pair. -/
theorem flatten_replace_group (before inner flat after : List Token) (opening closing : Token)
    (value : Binary64) (opens : opening.Opens) (closes : closing.Closes)
    (flattens : flatten inner = .ok flat) (reduces : reduce flat = .ok value) :
    flatten (before ++ [opening] ++ inner ++ [closing] ++ after) =
      flatten (before ++ [⟨.number value, opening.column⟩] ++ after) := by
  have inside : Collapses inner flat := flatten_eq_ok_iff.mp flattens
  have group : Collapses (opening :: (inner ++ [closing])) [⟨.number value, opening.column⟩] :=
    .group opens inside reduces closes .nil
  have single : Collapses [⟨.number value, opening.column⟩]
      [⟨.number value, opening.column⟩] :=
    .keep (fun opens => nomatch opens) (fun closes => nomatch closes) .nil
  have replaced := (group.interchangeable single).flatten_eq before after
  simpa using replaced

theorem flatten_replace_group_before_unpaired :
    let sum : List Token := [⟨.number .one, 5⟩, ⟨.operator "+", 6⟩, ⟨.number .one, 7⟩]
    let before : List Token := [⟨.openParen "(", 1⟩, ⟨.number .one, 2⟩, ⟨.operator "*", 3⟩]
    let after : List Token := [⟨.closeParen ")", 9⟩, ⟨.closeParen ")", 10⟩]
    flatten sum = .ok sum ∧ reduce sum = .ok (.ofNat 2) ∧
      flatten (before ++ [⟨.openParen "(", 4⟩] ++ sum ++ [⟨.closeParen ")", 8⟩] ++ after) =
        flatten (before ++ [⟨.number (.ofNat 2), 4⟩] ++ after) ∧
      flatten (before ++ [⟨.number (.ofNat 2), 4⟩] ++ after) =
        .error (.mismatchedParentheses (.unmatchedClose 10)) := by
  intro sum before after
  have flattens : flatten sum = .ok sum := by decide +kernel
  have reduces : reduce sum = .ok (.ofNat 2) := by decide +kernel
  have unpaired : flatten (before ++ [⟨.number (.ofNat 2), 4⟩] ++ after) =
      .error (.mismatchedParentheses (.unmatchedClose 10)) := by decide +kernel
  exact ⟨flattens, reduces,
    flatten_replace_group before sum sum after _ _ _ ⟨_, rfl⟩ ⟨_, rfl⟩ flattens reduces, unpaired⟩

end Reckoner
