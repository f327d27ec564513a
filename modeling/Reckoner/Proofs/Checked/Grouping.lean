import Reckoner.Proofs.Checked.Reduction
import Reckoner.Proofs.Reduction.Grouping

/-!
Contract: the checked scan for groups.

The scan writes all tokens that it keeps into one list. An open parenthesis is
put on a stack, with the number of tokens that were written before it; a closing
one takes the top of the stack, cuts the written tokens there, and writes the
value of what it has cut off. Main statement: the scan makes of the tokens what
the reading with open groups makes of them, so the stack is never empty where
its top is taken.

Owns: the checked scan, and the invariant that ties its list and its stack to
the groups that are open.

Does not own: the value of a flat expression.
-/

namespace Reckoner.Checked

/-- The tokens that were written, and the parentheses that are open, latest
first, each with the number of tokens that were written before it. -/
structure Scan where
  output : List Token := []
  stack : List (Nat × Token) := []
deriving DecidableEq

namespace Scan

/-- Reads one token. -/
def step (scan : Scan) (token : Token) : Checked Scan :=
  match token.lexeme with
  | .openParen _ => return ⟨scan.output, (scan.output.length, token) :: scan.stack⟩
  | .closeParen _ =>
      if scan.stack.isEmpty then
        refuse (.mismatchedParentheses (.unmatchedClose token.column))
      else do
        let ((start, opening), below) ← pop scan.stack
        let value ← reduce (scan.output.drop start)
        return ⟨scan.output.take start ++ [⟨.number value, opening.column⟩], below⟩
  | _ => return ⟨scan.output ++ [token], scan.stack⟩

/-- What was written, if no parenthesis is open. -/
def finish (scan : Scan) : Checked (List Token) :=
  if scan.stack.isEmpty then return scan.output
  else do
    let ((_, opening), _) ← pop scan.stack
    refuse (.mismatchedParentheses (.unmatchedOpen opening.column))

end Scan

/-- Replaces every parenthesised group by its value. -/
def openBrackets (tokens : List Token) : Checked (List Token) := do
  let scan ← tokens.foldlM Scan.step {}
  scan.finish

/-- The value of tokens without variables. -/
def valueOfTokens (tokens : List Token) : Checked Binary64 := do
  let flat ← openBrackets tokens
  reduce flat

/-! ### The open groups of a scan -/

namespace Scan

/-- The tokens that are written while groups are open. -/
def written : List OpenGroup → List Token → List Token
  | [], current => current.reverse
  | group :: outer, current => written outer group.before ++ current.reverse

/-- The stack while groups are open. -/
def opened : List OpenGroup → List (Nat × Token)
  | [] => []
  | group :: outer => ((written outer group.before).length, group.opening) :: opened outer

/-- The state of the scan inside of open groups. -/
def inside (groups : List OpenGroup) (current : List Token) : Scan :=
  ⟨written groups current, opened groups⟩

variable {token : Token}

private theorem written_cons (groups : List OpenGroup) (token : Token) (current : List Token) :
    written groups (token :: current) = written groups current ++ [token] := by
  cases groups with
  | nil => exact List.reverse_cons
  | cons group outer =>
      rw [written, written, List.reverse_cons, List.append_assoc]

private theorem step_of_opens (opens : token.Opens) (groups : List OpenGroup)
    (current : List Token) :
    step (inside groups current) token = .ok (inside (⟨token, current⟩ :: groups) []) := by
  obtain ⟨spelling, same⟩ := opens
  have nothing : written (⟨token, current⟩ :: groups) [] = written groups current :=
    List.append_nil _
  simp only [step, same, inside, nothing]
  rfl

/-- The written tokens are cut where the innermost group began. -/
theorem step_of_closes (closes : token.Closes) (group : OpenGroup) (outer : List OpenGroup)
    (current : List Token) :
    step (inside (group :: outer) current) token =
      report (Reckoner.reduce current.reverse) >>= fun value =>
        .ok (inside outer (group.closeWith value)) := by
  obtain ⟨spelling, same⟩ := closes
  have cutOff : (written (group :: outer) current).drop (written outer group.before).length =
      current.reverse :=
    List.drop_left
  have kept : (written (group :: outer) current).take (written outer group.before).length =
      written outer group.before :=
    List.take_left
  have stepped : step (inside (group :: outer) current) token =
      reduce ((written (group :: outer) current).drop (written outer group.before).length) >>=
        fun value => .ok
          ⟨(written (group :: outer) current).take (written outer group.before).length ++
            [⟨.number value, group.opening.column⟩], opened outer⟩ := by
    simp only [step, same]
    rfl
  rw [stepped, cutOff, kept, reduce_eq]
  simp only [inside, OpenGroup.closeWith, written_cons]

private theorem step_of_closes_unpaired (closes : token.Closes) (current : List Token) :
    step (inside [] current) token =
      refuse (.mismatchedParentheses (.unmatchedClose token.column)) := by
  obtain ⟨spelling, same⟩ := closes
  simp only [step, same]
  rfl

private theorem step_of_neither (notOpens : ¬ token.Opens) (notCloses : ¬ token.Closes)
    (groups : List OpenGroup) (current : List Token) :
    step (inside groups current) token = .ok (inside groups (token :: current)) := by
  have kept : step (inside groups current) token =
      .ok ⟨written groups current ++ [token], opened groups⟩ := by
    cases same : token.lexeme with
    | openParen spelling => exact absurd ⟨spelling, same⟩ notOpens
    | closeParen spelling => exact absurd ⟨spelling, same⟩ notCloses
    | _ =>
        simp only [step, same]
        rfl
  rw [kept, inside, written_cons]

/-- **A scan goes on as the reading with open groups does.** -/
theorem foldlM_step (tokens : List Token) :
    ∀ (groups : List OpenGroup) (current : List Token),
      tokens.foldlM step (inside groups current) >>= finish =
        report (flattenFrom groups current tokens) := by
  induction tokens with
  | nil =>
      intro groups current
      cases groups with
      | nil => rfl
      | cons group outer => rfl
  | cons token rest inductionHypothesis =>
      intro groups current
      rw [List.foldlM_cons, bind_assoc]
      by_cases opens : token.Opens
      · rw [step_of_opens opens, flattenFrom_of_opens opens, ok_bind]
        exact inductionHypothesis _ _
      · by_cases closes : token.Closes
        · cases groups with
          | nil =>
              rw [step_of_closes_unpaired closes, flattenFrom_of_closes_unpaired closes]
              rfl
          | cons group outer =>
              rw [step_of_closes closes, flattenFrom_of_closes closes, report_bind, bind_assoc]
              simp only [ok_bind, inductionHypothesis]
        · rw [step_of_neither opens closes, flattenFrom_of_neither opens closes, ok_bind]
          exact inductionHypothesis _ _

end Scan

/-- **The checked value is that of the tokens**, without a fault. -/
theorem valueOfTokens_eq (tokens : List Token) :
    valueOfTokens tokens = report (Reckoner.valueOfTokens tokens) := by
  have opens : openBrackets tokens = report (flatten tokens) := Scan.foldlM_step tokens [] []
  rw [valueOfTokens, Reckoner.valueOfTokens, report_bind, opens]
  simp only [reduce_eq]

end Reckoner.Checked
