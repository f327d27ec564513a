import Reckoner.Proofs.Assignment.Cascade
import Reckoner.Proofs.Evaluation.Failure
import Reckoner.Proofs.Text.Words

/-!
Contract: evaluation as a recursion on texts.

The words after a marker, joined to a text, are evaluated as a text of their
own. `evaluateWithin` does so with a bound on how deep these calls may nest.
Each call is left with fewer markers, because those that follow have a higher
rank, so the number of markers is bound enough for every text.

Owns: the recursion, its bound, and which texts are refused.

Does not own: the words and the kinds of errors.
-/

namespace Reckoner

open Statement (Form)
open Text (joinWords)

/-- Binds a target to what its marker makes of the value of another text. -/
def assignFrom (target : String) (marker : Marker) (nested : EvalM Binary64) :
    EvalM Binary64 := do
  let value ← nested
  let result ← marker.combine target value
  assign target result
  return result

/-- Evaluates a text, and the text after its marker as `nested` does. -/
def evaluateWith (nested : String → Option (EvalM Binary64)) (text : String) :
    Option (EvalM Binary64) :=
  match Form.ofWords (Text.words text) with
  | .expression => some (evaluateWords (Text.words text))
  | .refused cause => some (throw (.invalidAssignment cause))
  | .assignment target marker source =>
      (nested (joinWords source)).map (assignFrom target marker)

/-- Evaluation by calls that nest at most as deep as the bound below the first,
or nothing where they would have to nest deeper. -/
def evaluateWithin : Nat → String → Option (EvalM Binary64)
  | 0 => evaluateWith fun _ => none
  | bound + 1 => evaluateWith (evaluateWithin bound)

/-- The words after a marker are the words of the text that they are joined to. -/
theorem words_joinWords_source {text target : String} {marker : Marker} {source : List String}
    (assigns : Form.ofWords (Text.words text) = .assignment target marker source) :
    Text.words (joinWords source) = source := by
  have spelled := (Form.ofWords_eq_assignment_iff.mp assigns).1
  refine Text.words_joinWords fun word member => ?_
  have amongWords : word ∈ Text.words text := by
    rw [spelled]
    exact List.mem_cons_of_mem _ (List.mem_cons_of_mem _ member)
  exact Text.isWord_of_mem_words amongWords

/-- Evaluation calls itself for the text after a marker. -/
theorem evaluateWith_eq_some {nested : String → Option (EvalM Binary64)} {text : String}
    (agrees : ∀ {target marker source},
      Form.ofWords (Text.words text) = .assignment target marker source →
        nested (joinWords source) = some (evaluate (joinWords source))) :
    evaluateWith nested text = some (evaluate text) := by
  rw [evaluateWith, evaluate, Statement.ofText, Statement.ofWords_eq]
  cases form : Form.ofWords (Text.words text) with
  | expression =>
      dsimp only
      rw [EvalM.ofExcept_ok_bind, Statement.execute]
  | refused cause =>
      dsimp only
      rw [EvalM.ofExcept_error_bind]
  | assignment target marker source =>
      dsimp only
      rw [agrees form, evaluate, Statement.ofText, words_joinWords_source form]
      cases Statement.ofWords source with
      | error error => rfl
      | ok statement => rfl

/-- A bound that covers the ranks of the markers in a text is enough. -/
theorem evaluateWithin_eq_some {bound : Nat} :
    ∀ {lowest : Nat} {text : String}, Marker.all.length ≤ lowest + bound →
      (∀ marker : Marker, marker.spelling ∈ Text.words text → lowest ≤ marker.rank) →
        evaluateWithin bound text = some (evaluate text) := by
  induction bound with
  | zero =>
      intro lowest text covers above
      refine evaluateWith_eq_some fun {_ marker _} assigns => ?_
      have atLeast := above marker (Statement.spelling_mem_of_form assigns)
      have below := marker.rank_lt_length
      omega
  | succ bound inductionHypothesis =>
      intro lowest text covers above
      refine evaluateWith_eq_some fun {_ marker _} assigns => ?_
      have atLeast := above marker (Statement.spelling_mem_of_form assigns)
      have nestedCovers : Marker.all.length ≤ (lowest + 1) + bound := by omega
      refine inductionHypothesis nestedCovers ?_
      intro other present
      rw [words_joinWords_source assigns] at present
      have higher := (Form.ofWords_eq_assignment_iff.mp assigns).2.2.2 other present
      omega

example : (evaluateWithin 5 "a += b -= c *= d /= e %= f = 1").isNone = true := by decide +kernel

/-- **Refusals come first, and nesting is bounded.** A text with a marker is
refused exactly if its words are those of no cascade with stages. The table is
then as it was. Six nested calls are enough for every text. -/
theorem evaluate_refuses_exactly (text : String) (table : Table) :
    ((∃ cause left, (evaluate text).runOn table = (.error (.invalidAssignment cause), left)) ↔
      (∃ marker : Marker, marker.spelling ∈ Text.words text) ∧
        ¬ ∃ cascade : Cascade, cascade.stages ≠ [] ∧ cascade.words = Text.words text) ∧
    (∀ cause left, (evaluate text).runOn table = (.error (.invalidAssignment cause), left) →
      left = table) ∧
    evaluateWithin 6 text = some (evaluate text) := by
  refine ⟨?_, ?_, ?_⟩
  · rw [← Cascade.exists_refused_iff]
    constructor
    · rintro ⟨cause, left, refused⟩
      exact ⟨cause, (runOn_evaluate_eq_refused_iff.mp refused).1⟩
    · rintro ⟨cause, refused⟩
      exact ⟨cause, table, runOn_evaluate_eq_refused_iff.mpr ⟨refused, rfl⟩⟩
  · intro cause left refused
    exact (runOn_evaluate_eq_refused_iff.mp refused).2
  · have sixMarkers : Marker.all.length ≤ 0 + 6 := by decide
    exact evaluateWithin_eq_some sixMarkers fun marker _ => marker.rank.zero_le

end Reckoner
