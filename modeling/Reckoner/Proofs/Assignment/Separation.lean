import Reckoner.Proofs.Assignment.Cascade
import Reckoner.Proofs.Sequencing
import Reckoner.Proofs.Text.Words
import Reckoner.Proofs.Token.Identifier

/-!
Contract: a cascade is the same as its assignments one after the other.

A stage passes its value outwards. Written as texts of their own, the stages
run from the inside out, and each but the innermost assigns the target of the
stage before it. The value need not be passed on, because an assignment leaves
it with its target; and a compound marker reads its own target after the inner
stages in both.

Owns: the separate texts of a cascade, and the comparison.

Does not own: which words are a cascade.
-/

namespace Reckoner

open Statement (Form)
open Text (IsWord joinWords)

/-- The value of the last of some texts, evaluated one after the other up to
the first that fails. -/
def evaluateInTurn (texts : List String) : EvalM (Option Binary64) :=
  texts.foldlM (fun _ text => some <$> evaluate text) none

theorem evaluateInTurn_singleton (text : String) :
    evaluateInTurn [text] = some <$> evaluate text := by
  simp [evaluateInTurn]

theorem evaluateInTurn_append (texts : List String) (text : String) :
    evaluateInTurn (texts ++ [text]) =
      evaluateInTurn texts >>= fun _ => some <$> evaluate text := by
  rw [evaluateInTurn, List.foldlM_append]
  simp [evaluateInTurn]

namespace Cascade

/-- The words of each stage on its own, innermost first. A stage assigns the
target of the stage inside it, and the innermost the words behind all stages. -/
def separate (source : List String) : List Stage → List (List String)
  | [] => []
  | [innermost] => [innermost.words ++ source]
  | stage :: inner :: rest => separate source (inner :: rest) ++ [stage.words ++ [inner.target]]

def separateTexts (cascade : Cascade) : List String :=
  (separate cascade.source cascade.stages).map joinWords

end Cascade

/-! ### Single identifiers -/

theorem runOn_evaluateWords_identifier {name : String}
    (identifier : isIdentifier name.toList = true) {table : Table} {value : Binary64}
    (bound : table.get? name = some value) :
    (evaluateWords [name]).runOn table = (.ok value, table) := by
  have tokens : Token.ofWords [name] = [⟨.identifier name, 1⟩] := by
    simp [Token.ofWords, Lexeme.ofWord_of_isIdentifier identifier]
  have found : (lookUp name (some 1)).runOn table = (.ok value, table) := by
    rw [runOn_lookUp, bound]
  have resolvedOne : (Token.resolve ⟨.identifier name, 1⟩).runOn table =
      (.ok ⟨.number value, 1⟩, table) := EvalM.runOn_bind_of_ok found
  have resolved : (resolveAll [⟨.identifier name, 1⟩]).runOn table =
      (.ok [⟨.number value, 1⟩], table) := EvalM.runOn_bind_of_ok resolvedOne
  rw [evaluateWords, tokens, EvalM.runOn_bind_of_ok resolved]
  rfl

/-- An assignment that succeeds leaves its value with its target. -/
theorem get?_of_runOn_execute_assignment {target : String} {marker : Marker}
    {source : Statement} {table left : Table} {value : Binary64}
    (ran : (Statement.assignment target marker source).execute.runOn table = (.ok value, left)) :
    left.get? target = some value := by
  rw [Statement.runOn_execute_assignment] at ran
  split at ran
  · cases ran
  · split at ran
    · cases ran
    · cases ran
      exact Table.get?_set_self

/-- The value of a statement may be passed on, or read where it is left. -/
theorem execute_assignment_of_binds {inner : Statement} {name : String}
    (identifier : isIdentifier name.toList = true)
    (binds : ∀ {table left value}, inner.execute.runOn table = (.ok value, left) →
      left.get? name = some value) (target : String) (marker : Marker) :
    (inner.execute >>= fun _ =>
        (Statement.assignment target marker (.expression [name])).execute) =
      (Statement.assignment target marker inner).execute := by
  apply EvalM.ext
  intro table
  rw [EvalM.runOn_bind, Statement.runOn_execute_assignment]
  cases ran : inner.execute.runOn table with
  | mk outcome left =>
      cases outcome with
      | error error => rfl
      | ok value =>
          have readBack : (Statement.expression [name]).execute.runOn left = (.ok value, left) :=
            runOn_evaluateWords_identifier identifier (binds ran)
          dsimp only
          rw [Statement.runOn_execute_assignment, readBack]

namespace Cascade

theorem evaluate_of_words (cascade : Cascade) {text : String}
    (spelled : Text.words text = cascade.words) : evaluate text = cascade.statement.execute :=
  evaluate_of_ofWords (spelled ▸ cascade.ofWords_words)

/-! ### Separate texts -/

/-- A stage that assigns a single identifier. -/
def ofIdentifier (stage : Stage) (name : String)
    (stageIdentifier : isIdentifier stage.target.toList = true)
    (nameIdentifier : isIdentifier name.toList = true) : Cascade where
  stages := [stage]
  source := [name]
  identifiers := by simp [stageIdentifier]
  ascending := .cons (by simp) .nil
  source_ne_nil := by simp
  source_unmarked := by
    intro marker isName
    rw [← List.mem_singleton.mp isName, marker.spelling_not_identifier] at nameIdentifier
    cases nameIdentifier

section Enclosing

variable {inner : Cascade} {stage : Stage} {identifier : isIdentifier stage.target.toList = true}
  {encloses : ∀ other ∈ inner.stages, stage.Encloses other}

private theorem separateTexts_enclose_of_nil (noStage : inner.stages = []) :
    (inner.enclose stage identifier encloses).separateTexts =
      [joinWords (inner.enclose stage identifier encloses).words] := by
  have wordsOfStage : (inner.enclose stage identifier encloses).words =
      stage.words ++ inner.source := by
    simp [words, enclose, noStage]
  rw [wordsOfStage, separateTexts]
  change (separate inner.source (stage :: inner.stages)).map joinWords = _
  rw [noStage]
  rfl

private theorem separateTexts_enclose_of_cons {next : Stage} {rest : List Stage}
    (stagesOfInner : inner.stages = next :: rest) :
    (inner.enclose stage identifier encloses).separateTexts =
      inner.separateTexts ++ [joinWords (stage.words ++ [next.target])] := by
  rw [separateTexts, separateTexts]
  change (separate inner.source (stage :: inner.stages)).map joinWords = _
  rw [stagesOfInner, separate, List.map_append]
  rfl

/-- The separate text of a stage assigns the target of the stage inside it. -/
theorem evaluate_separate_stage {next : Stage} (isNext : next ∈ inner.stages)
    (areWords : ∀ word ∈ (inner.enclose stage identifier encloses).words, IsWord word.toList) :
    evaluate (joinWords (stage.words ++ [next.target])) =
      (Statement.assignment stage.target stage.marker (.expression [next.target])).execute := by
  rw [words_enclose, List.forall_mem_cons, List.forall_mem_cons] at areWords
  obtain ⟨targetIsWord, markerIsWord, innerAreWords⟩ := areWords
  have nextIsWord : next.target ∈ inner.words :=
    List.mem_append_left _ (List.mem_flatMap.mpr ⟨next, isNext, List.mem_cons_self⟩)
  have stageWords : ∀ word ∈ stage.words ++ [next.target], IsWord word.toList :=
    List.forall_mem_cons.mpr ⟨targetIsWord, List.forall_mem_cons.mpr
      ⟨markerIsWord, List.forall_mem_singleton.mpr (innerAreWords _ nextIsWord)⟩⟩
  exact evaluate_of_words
    (ofIdentifier stage next.target identifier (inner.identifiers next isNext))
    (Text.words_joinWords stageWords)

end Enclosing

/-- The separate texts of a cascade have the effect and the value of its statement. -/
theorem evaluateInTurn_separateTexts (cascade : Cascade) :
    (∀ word ∈ cascade.words, IsWord word.toList) → cascade.stages ≠ [] →
      evaluateInTurn cascade.separateTexts = some <$> cascade.statement.execute := by
  induction cascade using Cascade.induction with
  | expression source nonempty unmarked =>
      intro _ noStage
      exact absurd rfl noStage
  | enclose inner stage identifier encloses inductionHypothesis =>
      intro areWords _
      cases stagesOfInner : inner.stages with
      | nil =>
          rw [separateTexts_enclose_of_nil stagesOfInner, evaluateInTurn_singleton,
            evaluate_of_words _ (Text.words_joinWords areWords)]
      | cons next rest =>
          have isNext : next ∈ inner.stages := by
            rw [stagesOfInner]
            exact List.mem_cons_self
          have innerAreWords (word : String) (member : word ∈ inner.words) :
              IsWord word.toList :=
            areWords word (List.mem_cons_of_mem _ (List.mem_cons_of_mem _ member))
          have innerInTurn := inductionHypothesis innerAreWords (List.ne_nil_of_mem isNext)
          have binds {table left : Table} {value : Binary64}
              (ran : inner.statement.execute.runOn table = (.ok value, left)) :
              left.get? next.target = some value := by
            rw [statement, stagesOfInner] at ran
            exact get?_of_runOn_execute_assignment ran
          calc evaluateInTurn (inner.enclose stage identifier encloses).separateTexts
            _ = (some <$> inner.statement.execute) >>= fun _ =>
                  some <$> (Statement.assignment stage.target stage.marker
                    (.expression [next.target])).execute := by
                rw [separateTexts_enclose_of_cons stagesOfInner, evaluateInTurn_append,
                  innerInTurn, evaluate_separate_stage isNext areWords]
            _ = some <$> (inner.statement.execute >>= fun _ =>
                  (Statement.assignment stage.target stage.marker
                    (.expression [next.target])).execute) := by
                simp only [map_bind, bind_map_left]
            _ = some <$> (inner.enclose stage identifier encloses).statement.execute := by
                rw [execute_assignment_of_binds (inner.identifiers next isNext) binds]
                rfl

end Cascade

/-- **A cascade is its assignments in turn.** Evaluating the separate texts of a
cascade, up to the first that fails, has the outcome of evaluating the cascade
as one text, and leaves the same table. -/
theorem runOn_evaluateInTurn_eq_evaluate (cascade : Cascade) (nonempty : cascade.stages ≠ [])
    (text : String) (spelled : Text.words text = cascade.words) (table : Table) :
    (evaluateInTurn cascade.separateTexts).runOn table =
      (some <$> evaluate text).runOn table := by
  have areWords : ∀ word ∈ cascade.words, IsWord word.toList := by
    intro word member
    rw [← spelled] at member
    exact Text.isWord_of_mem_words member
  rw [cascade.evaluateInTurn_separateTexts areWords nonempty, cascade.evaluate_of_words spelled]

theorem runOn_evaluateInTurn_of_repeated_target :
    ∃ cascade : Cascade, cascade.stages ≠ [] ∧ Text.words "x += x = 3" = cascade.words ∧
      cascade.separateTexts = ["x = 3", "x += x"] ∧
        (evaluateInTurn cascade.separateTexts).runOn ∅ =
          (some <$> evaluate "x += x = 3").runOn ∅ ∧
            (evaluate "x += x = 3").runOn ∅ = (.ok (.ofNat 6), (∅ : Table).set "x" (.ofNat 6)) := by
  have unmarked : ∀ marker : Marker, marker.spelling ∉ ["3"] :=
    Marker.firstIn?_eq_none_iff.mp (by decide)
  have spelled : Text.words "x += x = 3" = ["x", "+=", "x", "=", "3"] := by decide
  have evaluated :
      (evaluate "x += x = 3").runOn ∅ = (.ok (.ofNat 6), (∅ : Table).set "x" (.ofNat 6)) := by
    decide +kernel
  have separated : (Cascade.separate ["3"]
      [⟨"x", .compound .add⟩, ⟨"x", .plain⟩]).map joinWords = ["x = 3", "x += x"] := by decide
  let cascade : Cascade :=
    ⟨[⟨"x", .compound .add⟩, ⟨"x", .plain⟩], ["3"], by decide, by decide, by decide, unmarked⟩
  exact ⟨cascade, List.cons_ne_nil _ _, spelled, separated,
    runOn_evaluateInTurn_eq_evaluate cascade (List.cons_ne_nil _ _) _ spelled ∅, evaluated⟩

end Reckoner
