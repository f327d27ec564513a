import Reckoner.Evaluation
import Reckoner.Report.Csv
import Reckoner.Report.Summary

/-!
Contract: the transcript of a run.

A run starts from an empty table, echoes its texts, and evaluates those that
are not blank, up to the first that fails. Its transcript shows each text with
its value, and then the summary of the table, or the message of the error. A
run in debug mode ends with the table as comma-separated values, which are
also its result; after an error they are empty.

Owns: the run, its transcript and its result.

Does not own: evaluation, or the views of a table.
-/

namespace Reckoner

open Text (line)

/-- What a run has evaluated: the texts with their values, in order, and how it
ended, with the error that stopped it or without one. -/
structure Trace where
  values : List (String × Binary64)
  error : Option EvalError
  table : Table
deriving DecidableEq

namespace Trace

/-- Evaluates texts on a table, up to the first that fails. -/
def ofTexts (table : Table) : List String → Trace
  | [] => ⟨[], none, table⟩
  | text :: rest =>
      let trimmed := Text.trim text
      if trimmed.isEmpty then ofTexts table rest
      else
        match (evaluate trimmed).runOn table with
        | (.error error, left) => ⟨[], some error, left⟩
        | (.ok value, left) =>
            let remaining := ofTexts left rest
            { remaining with values := (trimmed, value) :: remaining.values }

end Trace

/-- What a run prints, and the result that it returns in debug mode. -/
structure Transcript where
  output : String
  result : Option String
deriving DecidableEq

namespace Transcript

/-- The lines of the texts as they were given. -/
def echo (texts : List String) : String :=
  line "Input:" ++ String.join (texts.map line) ++ line "\nEvaluating..."

/-- The line of a text with its value. -/
def valueLine (text : String) (value : Binary64) : String :=
  line ("  " ++ text ++ " -> " ++ value.display)

/-- The lines of the comma-separated values. -/
def debugLines (csv : String) : String :=
  line "\nVariables (CSV format):" ++ line csv

/-- The transcript of a run over the texts. -/
def ofTexts (texts : List String) (debug : Bool) : Transcript :=
  let trace := Trace.ofTexts ∅ texts
  let shown := echo texts ++
    String.join (trace.values.map fun (text, value) => valueLine text value)
  let csv := if trace.error.isSome then "" else trace.table.csv
  let ending :=
    match trace.error with
    | some error => line ("Error: " ++ error.message)
    | none => line "\nOutput:" ++ line trace.table.summary
  { output := shown ++ ending ++ (if debug then debugLines csv else "")
    result := if debug then some csv else none }

end Transcript

/-! ### Demonstrations -/

/-- A run that shows steps, parentheses and a compound assignment. -/
def stepsDemo : List String :=
  ["i = 0", "j = ++i", "x = i++ + 5", "y = (5 + 3) * 10", "i += y"]

/-- A run that shows a product of a group. -/
def groupDemo : List String :=
  ["a = 10", "b = 20", "c = ( a + b ) * 2"]

/-- A run that shows compound assignments. -/
def compoundDemo : List String :=
  ["num = 100", "num += 50", "num *= 2", "num /= 4"]

/-- What the first demonstration prints. -/
def shortDemo : String :=
  (Transcript.ofTexts stepsDemo false).output

/-- What all three demonstrations print, the last in debug mode. -/
def fullDemo : String :=
  shortDemo ++ (Transcript.ofTexts groupDemo false).output ++
    (Transcript.ofTexts compoundDemo true).output

end Reckoner
