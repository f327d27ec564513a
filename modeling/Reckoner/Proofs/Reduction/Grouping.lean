import Reckoner.Proofs.Grammar.Tree
import Reckoner.Proofs.Sequencing

/-!
Contract: the scan for groups, without its stack.

`Collapses` says which tokens remain when every group of a list is replaced by
its value, as a relation on whole lists. Main statement: `flatten` succeeds with
exactly these tokens.

Owns: the relation, what each token does to the scan, and the invariant that
ties the open groups of the scan to the tokens read so far.

Does not own: the value of a flat expression.
-/

namespace Reckoner

/-- The tokens that remain when groups are replaced by their values. -/
inductive Collapses : List Token → List Token → Prop where
  | nil : Collapses [] []
  | keep {token : Token} {tokens flat : List Token} (notOpens : ¬ token.Opens)
      (notCloses : ¬ token.Closes) (rest : Collapses tokens flat) :
      Collapses (token :: tokens) (token :: flat)
  | group {opening closing : Token} {inner innerFlat tokens flat : List Token}
      {value : Binary64} (opens : opening.Opens) (inside : Collapses inner innerFlat)
      (reduces : reduce innerFlat = .ok value) (closes : closing.Closes)
      (rest : Collapses tokens flat) :
      Collapses (opening :: (inner ++ closing :: tokens))
        (⟨.number value, opening.column⟩ :: flat)

/-! ### One token of the scan -/

theorem flattenFrom_of_opens {token : Token} (opens : token.Opens) (groups : List OpenGroup)
    (current rest : List Token) :
    flattenFrom groups current (token :: rest) =
      flattenFrom (⟨token, current⟩ :: groups) [] rest := by
  obtain ⟨spelling, same⟩ := opens
  simp only [flattenFrom, same]

theorem flattenFrom_of_closes {token : Token} (closes : token.Closes) (group : OpenGroup)
    (outer : List OpenGroup) (current rest : List Token) :
    flattenFrom (group :: outer) current (token :: rest) =
      reduce current.reverse >>= fun value =>
        flattenFrom outer (group.closeWith value) rest := by
  obtain ⟨spelling, same⟩ := closes
  simp only [flattenFrom, same]

theorem flattenFrom_of_closes_unpaired {token : Token} (closes : token.Closes)
    (current rest : List Token) :
    flattenFrom [] current (token :: rest) =
      .error (.mismatchedParentheses (.unmatchedClose token.column)) := by
  obtain ⟨spelling, same⟩ := closes
  simp only [flattenFrom, same]

theorem flattenFrom_of_neither {token : Token} (notOpens : ¬ token.Opens)
    (notCloses : ¬ token.Closes) (groups : List OpenGroup) (current rest : List Token) :
    flattenFrom groups current (token :: rest) =
      flattenFrom groups (token :: current) rest := by
  cases same : token.lexeme with
  | openParen spelling => exact absurd ⟨spelling, same⟩ notOpens
  | closeParen spelling => exact absurd ⟨spelling, same⟩ notCloses
  | _ => simp only [flattenFrom, same]

namespace Collapses

theorem append {left leftFlat right rightFlat : List Token}
    (leftCollapses : Collapses left leftFlat)
    (rightCollapses : Collapses right rightFlat) :
    Collapses (left ++ right) (leftFlat ++ rightFlat) := by
  induction leftCollapses with
  | nil => exact rightCollapses
  | keep notOpens notCloses _ inductionHypothesis =>
      exact .keep notOpens notCloses inductionHypothesis
  | @group opening closing inner innerFlat tokens flat value opens inside reduces closes _ _
      inductionHypothesis =>
      have regrouped :
          opening :: (inner ++ closing :: tokens) ++ right =
            opening :: (inner ++ closing :: (tokens ++ right)) := by
        simp
      rw [regrouped]
      exact .group opens inside reduces closes inductionHypothesis

theorem keepOperator {link : Token} {operator : Operator} {tokens flat : List Token}
    (rest : Collapses tokens flat) (names : link.Names operator) :
    Collapses (link :: tokens) (link :: flat) :=
  .keep names.not_opens names.not_closes rest

/-- The scan passes over tokens that collapse, whatever is open around them. -/
theorem flattenFrom_append {tokens flat : List Token} (collapses : Collapses tokens flat) :
    ∀ (groups : List OpenGroup) (current rest : List Token),
      flattenFrom groups current (tokens ++ rest) =
        flattenFrom groups (flat.reverse ++ current) rest := by
  induction collapses with
  | nil => exact fun _ _ _ => rfl
  | @keep token tokens flat notOpens notCloses _ inductionHypothesis =>
      intro groups current rest
      rw [List.cons_append, flattenFrom_of_neither notOpens notCloses, inductionHypothesis]
      simp
  | @group opening closing inner innerFlat tokens flat value opens _ reduces closes _
      insideHypothesis restHypothesis =>
      intro groups current rest
      have regrouped :
          opening :: (inner ++ closing :: tokens) ++ rest =
            opening :: (inner ++ closing :: (tokens ++ rest)) := by
        simp
      rw [regrouped, flattenFrom_of_opens opens, insideHypothesis, List.append_nil,
        flattenFrom_of_closes closes, List.reverse_reverse, reduces]
      change flattenFrom groups (⟨.number value, opening.column⟩ :: current) (tokens ++ rest) = _
      rw [restHypothesis]
      simp

theorem flatten_eq_ok {tokens flat : List Token} (collapses : Collapses tokens flat) :
    flatten tokens = .ok flat := by
  have scanned := collapses.flattenFrom_append [] [] []
  rw [List.append_nil, List.append_nil] at scanned
  rw [flatten, scanned]
  simp [flattenFrom]

end Collapses

/-! ### The whole scan -/

/-- The tokens that were read before the innermost open group: for each open
group those that stand before it in the group around it, and its parenthesis. -/
inductive ReadBefore : List OpenGroup → List Token → Prop where
  | nil : ReadBefore [] []
  | cons {group : OpenGroup} {outer : List OpenGroup} {around before : List Token}
      (opens : group.opening.Opens) (readAround : ReadBefore outer around)
      (collapses : Collapses before group.before.reverse) :
      ReadBefore (group :: outer) (around ++ before ++ [group.opening])

private theorem collapses_of_flattenFrom {tokens flat : List Token} :
    ∀ {groups : List OpenGroup} {current around before : List Token},
      flattenFrom groups current tokens = .ok flat → ReadBefore groups around →
        Collapses before current.reverse → Collapses (around ++ before ++ tokens) flat := by
  induction tokens with
  | nil =>
      intro groups current around before scanned readAround collapses
      cases readAround with
      | nil =>
          cases scanned
          simpa using collapses
      | cons _ _ _ => cases scanned
  | cons token rest inductionHypothesis =>
      intro groups current around before scanned readAround collapses
      by_cases opens : token.Opens
      · rw [flattenFrom_of_opens opens] at scanned
        have collapsed := inductionHypothesis scanned
          (.cons opens readAround collapses) .nil
        simpa using collapsed
      by_cases closes : token.Closes
      · cases readAround with
        | nil =>
            rw [flattenFrom_of_closes_unpaired closes] at scanned
            cases scanned
        | @cons group outer outside beforeGroup opensGroup readOutside collapsesBefore =>
            rw [flattenFrom_of_closes closes] at scanned
            obtain ⟨value, reduces, scannedRest⟩ := bind_eq_ok_iff.mp scanned
            have closed : Collapses (beforeGroup ++ (group.opening :: (before ++ [token])))
                (group.closeWith value).reverse := by
              simpa [OpenGroup.closeWith] using
                collapsesBefore.append (.group opensGroup collapses reduces closes .nil)
            have collapsed := inductionHypothesis scannedRest readOutside closed
            simpa using collapsed
      · rw [flattenFrom_of_neither opens closes] at scanned
        have kept : Collapses (before ++ [token]) (token :: current).reverse := by
          simpa using collapses.append (.keep opens closes .nil)
        have collapsed := inductionHypothesis scanned readAround kept
        simpa using collapsed

/-- **The scan is the relation.** -/
theorem flatten_eq_ok_iff {tokens flat : List Token} :
    flatten tokens = .ok flat ↔ Collapses tokens flat := by
  constructor
  · intro scanned
    have nothingRead : Collapses [] [] := .nil
    have collapsed := collapses_of_flattenFrom scanned .nil nothingRead
    simpa using collapsed
  · exact Collapses.flatten_eq_ok

end Reckoner
