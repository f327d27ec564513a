import Reckoner.Proofs.Sequencing
import Reckoner.Report.Transcript

/-!
Contract: a transcript tells what the evaluation of its texts does.

A run and `evaluateAll` go over the same texts, one with a list of what it has
shown and one with nothing but the table. Main statement: from an empty table
they have the same values, the same end and the same table. Where a text fails,
both stop there, and the texts behind it have no effect.

Owns: the texts that a run evaluates, what it shows of them, and the comparison.

Does not own: the value of a text.
-/

namespace Reckoner

open Text (line)

/-- The texts that are evaluated: trimmed, and without those that are blank. -/
def trimmedTexts (texts : List String) : List String :=
  (texts.map Text.trim).filter fun text => !text.isEmpty

variable {text : String} {before after texts rest : List String}
  {table between left : Table} {value : Binary64} {error : EvalError}

/-! ### Single texts -/

theorem evaluateAll_append (before after : List String) :
    evaluateAll (before ++ after) = evaluateAll before >>= fun _ => evaluateAll after := by
  induction before with
  | nil => rfl
  | cons text rest inductionHypothesis =>
      rw [List.cons_append, evaluateAll_cons, evaluateAll_cons, inductionHypothesis]
      split
      · rfl
      · rw [bind_assoc]

private theorem trimmedTexts_cons_of_blank (blank : (Text.trim text).isEmpty = true)
    (rest : List String) : trimmedTexts (text :: rest) = trimmedTexts rest := by
  simp [trimmedTexts, blank]

private theorem trimmedTexts_cons_of_not_blank (notBlank : (Text.trim text).isEmpty = false)
    (rest : List String) : trimmedTexts (text :: rest) = Text.trim text :: trimmedTexts rest := by
  simp [trimmedTexts, notBlank]

namespace Trace

theorem ofTexts_cons_of_blank (blank : (Text.trim text).isEmpty = true) (table : Table)
    (rest : List String) : ofTexts table (text :: rest) = ofTexts table rest := by
  rw [ofTexts]
  dsimp only
  rw [if_pos blank]

theorem ofTexts_cons_of_ok (notBlank : (Text.trim text).isEmpty = false)
    (evaluated : (evaluate (Text.trim text)).runOn table = (.ok value, left))
    (rest : List String) :
    ofTexts table (text :: rest) =
      { ofTexts left rest with
        values := (Text.trim text, value) :: (ofTexts left rest).values } := by
  rw [ofTexts]
  dsimp only
  rw [if_neg (by simp [notBlank]), evaluated]

theorem ofTexts_cons_of_error (notBlank : (Text.trim text).isEmpty = false)
    (failed : (evaluate (Text.trim text)).runOn table = (.error error, left))
    (rest : List String) : ofTexts table (text :: rest) = ⟨[], some error, left⟩ := by
  rw [ofTexts]
  dsimp only
  rw [if_neg (by simp [notBlank]), failed]

/-! ### Texts that all succeed -/

/-- Texts without a failure are all shown, with the table that their evaluation
leaves, and what follows them is shown behind them. -/
theorem ofTexts_append_of_ok :
    ∀ {table : Table}, (evaluateAll before).runOn table = (.ok (), between) →
      ∃ entries, entries.map Prod.fst = trimmedTexts before ∧
        ∀ after, ofTexts table (before ++ after) =
          { ofTexts between after with values := entries ++ (ofTexts between after).values } := by
  induction before with
  | nil =>
      intro table ran
      cases ran
      exact ⟨[], rfl, fun after => rfl⟩
  | cons text rest inductionHypothesis =>
      intro table ran
      rw [evaluateAll_cons] at ran
      cases blank : (Text.trim text).isEmpty with
      | true =>
          rw [if_pos blank] at ran
          obtain ⟨entries, shown, traced⟩ := inductionHypothesis ran
          refine ⟨entries, ?_, fun after => ?_⟩
          · rw [shown, trimmedTexts_cons_of_blank blank]
          · rw [List.cons_append, ofTexts_cons_of_blank blank, traced]
      | false =>
          rw [if_neg (by simp [blank])] at ran
          obtain ⟨value, middle, evaluated, restRan⟩ := EvalM.runOn_bind_eq_ok_iff.mp ran
          obtain ⟨entries, shown, traced⟩ := inductionHypothesis restRan
          refine ⟨(Text.trim text, value) :: entries, ?_, fun after => ?_⟩
          · rw [List.map_cons, shown, trimmedTexts_cons_of_not_blank blank]
          · rw [List.cons_append, ofTexts_cons_of_ok blank evaluated, traced]
            rfl

/-- The entries are those of all texts that are not blank, in their order. Each
is a trimmed text with its value on the table that the texts before it leave. -/
structure Shows (table : Table) (texts : List String) (entries : List (String × Binary64)) :
    Prop where
  texts_eq : entries.map Prod.fst = trimmedTexts texts
  value_at : ∀ before text after, texts = before ++ text :: after →
    (Text.trim text).isEmpty = false →
      ∃ value left,
        (evaluate (Text.trim text)).runOn ((evaluateAll before).runOn table).2 =
          (.ok value, left) ∧
        entries[(trimmedTexts before).length]? = some (Text.trim text, value)

private theorem ofTexts_of_ok (ran : (evaluateAll texts).runOn table = (.ok (), left)) :
    ∃ entries, Shows table texts entries ∧
      ∀ after, ofTexts table (texts ++ after) =
        { ofTexts left after with values := entries ++ (ofTexts left after).values } := by
  obtain ⟨entries, shown, traced⟩ := ofTexts_append_of_ok ran
  refine ⟨entries, ⟨shown, ?_⟩, traced⟩
  rintro before text after rfl notBlank
  -- The texts before this one succeed too, so their entries come first.
  rw [evaluateAll_append] at ran
  obtain ⟨_, between, beforeRan, ranFromText⟩ := EvalM.runOn_bind_eq_ok_iff.mp ran
  rw [evaluateAll_cons, if_neg (by simp [notBlank])] at ranFromText
  obtain ⟨value, middle, evaluated, _⟩ := EvalM.runOn_bind_eq_ok_iff.mp ranFromText
  obtain ⟨entriesBefore, shownBefore, tracedBefore⟩ := ofTexts_append_of_ok beforeRan
  have valuesOfAll := congrArg Trace.values ((traced []).symm.trans
    ((congrArg (ofTexts table) (List.append_nil _)).trans (tracedBefore (text :: after))))
  rw [ofTexts_cons_of_ok notBlank evaluated] at valuesOfAll
  have all : entries =
      entriesBefore ++ (Text.trim text, value) :: (ofTexts middle after).values := by
    simpa [ofTexts] using valuesOfAll
  have place : (trimmedTexts before).length = entriesBefore.length := by
    rw [← shownBefore, List.length_map]
  refine ⟨value, middle, ?_, ?_⟩
  · rw [beforeRan]
    exact evaluated
  · rw [all, place]
    simp

/-! ### The first failure -/

end Trace

/-- Where several texts fail, one of them does, and those before it succeed. -/
theorem exists_failing_text :
    ∀ {table : Table}, (evaluateAll texts).runOn table = (.error error, left) →
      ∃ before text after between, texts = before ++ text :: after ∧
        (evaluateAll before).runOn table = (.ok (), between) ∧
        (Text.trim text).isEmpty = false ∧
        (evaluate (Text.trim text)).runOn between = (.error error, left) := by
  induction texts with
  | nil =>
      intro table failed
      cases failed
  | cons text rest inductionHypothesis =>
      intro table failed
      rw [evaluateAll_cons] at failed
      cases blank : (Text.trim text).isEmpty with
      | true =>
          rw [if_pos blank] at failed
          obtain ⟨before, failing, after, between, rfl, ran, notBlank, fails⟩ :=
            inductionHypothesis failed
          refine ⟨text :: before, failing, after, between, rfl, ?_, notBlank, fails⟩
          rw [evaluateAll_cons, if_pos blank, ran]
      | false =>
          rw [if_neg (by simp [blank])] at failed
          cases evaluated : (evaluate (Text.trim text)).runOn table with
          | mk outcome middle =>
              cases outcome with
              | error cause =>
                  rw [EvalM.runOn_bind_of_error evaluated] at failed
                  cases failed
                  exact ⟨[], text, rest, table, rfl, rfl, blank, evaluated⟩
              | ok value =>
                  rw [EvalM.runOn_bind_of_ok evaluated] at failed
                  obtain ⟨before, failing, after, between, rfl, ran, notBlank, fails⟩ :=
                    inductionHypothesis failed
                  refine ⟨text :: before, failing, after, between, rfl, ?_, notBlank, fails⟩
                  rw [evaluateAll_cons, if_neg (by simp [blank]),
                    EvalM.runOn_bind_of_ok evaluated, ran]

private theorem runOn_evaluateAll_of_failing
    (ran : (evaluateAll before).runOn table = (.ok (), between))
    (notBlank : (Text.trim text).isEmpty = false)
    (failed : (evaluate (Text.trim text)).runOn between = (.error error, left))
    (after : List String) :
    (evaluateAll (before ++ text :: after)).runOn table = (.error error, left) := by
  rw [evaluateAll_append, EvalM.runOn_bind_of_ok ran, evaluateAll_cons,
    if_neg (by simp [notBlank]), EvalM.runOn_bind_of_error failed]

/-! ### Transcripts -/

namespace Transcript

/-- The lines of the texts that were evaluated, each with its value. -/
def valueLines (entries : List (String × Binary64)) : String :=
  String.join (entries.map fun (text, value) => line ("  " ++ text ++ " -> " ++ value.display))

/-- **A transcript tells what the evaluation of its texts does.** If the texts
succeed on an empty table, then it shows every one that is not blank with its
value at its place, and the table that they leave. If they fail, then it shows
those before the one that fails, and the error, and whatever stands behind that
one changes neither this nor the table. -/
theorem ofTexts_eq_of_evaluateAll (texts : List String) (debug : Bool) :
    (∀ table, (evaluateAll texts).runOn ∅ = (.ok (), table) →
      ∃ entries, Trace.Shows ∅ texts entries ∧
        ofTexts texts debug =
          { output := echo texts ++ valueLines entries ++
              (line "\nOutput:" ++ line table.summary) ++
              if debug then line "\nVariables (CSV format):" ++ line table.csv else ""
            result := if debug then some table.csv else none }) ∧
    ∀ error left, (evaluateAll texts).runOn ∅ = (.error error, left) →
      ∃ before text after between entries,
        texts = before ++ text :: after ∧ (Text.trim text).isEmpty = false ∧
        (evaluateAll before).runOn ∅ = (.ok (), between) ∧
        (evaluate (Text.trim text)).runOn between = (.error error, left) ∧
        Trace.Shows ∅ before entries ∧
        ofTexts texts debug =
          { output := echo texts ++ valueLines entries ++ line ("Error: " ++ error.message) ++
              if debug then line "\nVariables (CSV format):" ++ line "" else ""
            result := if debug then some "" else none } ∧
        ∀ others, Trace.ofTexts ∅ (before ++ text :: others) = ⟨entries, some error, left⟩ ∧
          (evaluateAll (before ++ text :: others)).runOn ∅ = (.error error, left) := by
  constructor
  · intro table ran
    obtain ⟨entries, shows, traced⟩ := Trace.ofTexts_of_ok ran
    have trace : Trace.ofTexts ∅ texts = ⟨entries, none, table⟩ := by
      simpa [Trace.ofTexts] using traced []
    refine ⟨entries, shows, ?_⟩
    rw [ofTexts, trace]
    rfl
  · intro error left failed
    obtain ⟨before, text, after, between, rfl, ran, notBlank, fails⟩ := exists_failing_text failed
    obtain ⟨entries, shows, traced⟩ := Trace.ofTexts_of_ok ran
    have trace (others : List String) :
        Trace.ofTexts ∅ (before ++ text :: others) = ⟨entries, some error, left⟩ := by
      rw [traced, Trace.ofTexts_cons_of_error notBlank fails, List.append_nil]
    refine ⟨before, text, after, between, entries, rfl, notBlank, ran, fails, shows, ?_,
      fun others => ⟨trace others, runOn_evaluateAll_of_failing ran notBlank fails others⟩⟩
    rw [ofTexts, trace]
    rfl

end Transcript

end Reckoner
