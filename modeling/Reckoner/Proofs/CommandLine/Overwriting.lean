import Reckoner.Proofs.CommandLine.Run
import Reckoner.Proofs.Script.Endings

/-!
Contract: which runs overwrite their own script.

The table of a script is saved under its name with another extension. Where the script
has that extension already, this is the name of the script, and nothing keeps the run
from writing there. Main statement: exactly the runs in debug mode that succeed on such
a script overwrite it, with a table that is no script; any other run leaves the script
as it was, and the name of a script always leads to the same file.

Owns: the names that are kept, and what a run does to its own script.

Does not own: where a table is saved, and what it holds.
-/

namespace Reckoner

variable {tree : FileTree} {arguments : List String} {parsed : Arguments}
  {content : String} {error : EvalError}

/-! ### Names that are kept -/

/-- The last part of the path ends in `.csv`, and something else than dots stands before
that. -/
def Path.HasCsvExtension (path : List Char) : Prop :=
  ∃ before stem, path = before ++ (stem ++ ".csv".toList) ∧ EndsAtPart before ∧ '/' ∉ stem ∧
    ∃ character ∈ stem, character ≠ '.'

theorem Run.csvName_eq_self_iff {path : String} :
    csvName path = path ↔ Path.HasCsvExtension path.toList := by
  constructor
  · intro same
    obtain ⟨before, last, spelled, ends, single⟩ := Path.exists_last path.toList
    rw [csvName_eq_self_iff_of_append ends single spelled, csvPart_eq_self_iff] at same
    obtain ⟨stem, rfl, named⟩ := same
    exact ⟨before, stem, spelled, ends, fun slash => single (List.mem_append_left _ slash), named⟩
  · rintro ⟨before, stem, spelled, ends, single, named⟩
    have singleToo : '/' ∉ stem ++ ".csv".toList := by
      rw [List.mem_append, not_or]
      exact ⟨single, by decide⟩
    rw [csvName_eq_self_iff_of_append ends singleToo spelled, csvPart_eq_self_iff]
    exact ⟨stem, rfl, named⟩

/-! ### A table is no script -/

/-- A script that fails does so whatever stands on further lines. -/
theorem Run.tableOf_append_ending (ending : Script.LineEnding) (after : String)
    (fails : tableOf content = .error error) :
    tableOf (content ++ ending.text ++ after) = .error error := by
  rw [tableOf] at fails ⊢
  rw [Script.expressions_append_ending, evaluateAll_append]
  split at fails
  · cases fails
  · rename_i _ left ran
    cases fails
    rw [EvalM.runOn_bind_of_error ran]

/-- The first line of a saved table. -/
def Csv.firstLine : String :=
  "\x22name\x22,\x22value\x22"

private theorem Table.exists_csv_eq (table : Table) :
    ∃ records, table.csv = Csv.firstLine ++ Script.LineEnding.lineFeed.text ++ records := by
  have header : Csv.header = Csv.firstLine.toList ++ Script.LineEnding.lineFeed.text.toList := by
    decide +kernel
  rw [csv, Csv.ofItems, header, String.ofList_append, String.ofList_append, String.ofList_toList,
    String.ofList_toList]
  exact ⟨_, rfl⟩

/-- The names of the columns are no expression. -/
theorem Run.exists_tableOf_csv_eq_error (table : Table) :
    ∃ error, tableOf table.csv = .error error := by
  have fails : tableOf Csv.firstLine =
      .error (.malformedExpression (.unexpected ⟨.unknown Csv.firstLine, 1⟩ .number)) := by
    decide +kernel
  obtain ⟨records, lines⟩ := table.exists_csv_eq
  rw [lines]
  exact ⟨_, tableOf_append_ending .lineFeed records fails⟩

/-! ### One run -/

/-- A run that succeeds in debug mode has put the table of its script in place. -/
theorem exists_saved_of_ok (accepted : Arguments.parse? arguments = some parsed)
    (debug : parsed.debug = true) (succeeds : (runCommand arguments tree).exit = Run.ok) :
    ∃ content table script, tree.readScript parsed.fileName = .ok content ∧
      Run.tableOf content = .ok table ∧ tree.locate parsed.fileName = .file script ∧
      (runCommand arguments tree).tree = tree.put (Run.csvName script) table.csv := by
  cases read : tree.readScript parsed.fileName with
  | error stop =>
      rw [runCommand_of_readScript_error accepted read] at succeeds
      exact absurd succeeds (Run.exit_ofFileError_ne_ok parsed stop)
  | ok content =>
      have runs : Run.ofReading parsed (tree.readScript parsed.fileName) =
          Run.ofReading parsed (.ok content) := by rw [read]
      rw [Run.ofReading] at runs
      cases made : Run.tableOf content with
      | error error =>
          rw [made] at runs
          rw [runCommand_of_save_none accepted runs rfl] at succeeds
          exact absurd succeeds Run.failure_ne_ok
      | ok table =>
          rw [made, debug] at runs
          obtain ⟨script, located⟩ := FileTree.exists_locate_of_readScript read
          cases written : tree.write (Run.csvName parsed.fileName) table.csv with
          | error stop =>
              rw [runCommand_of_write_error accepted runs rfl written] at succeeds
              exact absurd succeeds (Run.exit_ofFileError_ne_ok parsed stop)
          | ok saved =>
              have beside :=
                FileTree.write_csvName located (FileTree.hasRoom_of_write written) table.csv
              refine ⟨content, table, script, rfl, made, located, ?_⟩
              rw [runCommand_of_write accepted runs rfl beside]

/-- Where the table has another name, the script keeps its content. -/
theorem FileTree.readScript_put_beside {path script : String}
    (found : tree.locate path = .file script) (different : Run.csvName path ≠ path)
    (content : String) :
    (tree.put (Run.csvName script) content).readScript path = tree.readScript path := by
  have elsewhere : script ≠ Run.csvName script := by
    intro same
    exact different ((csvName_script_eq_self_iff found).mp same.symm)
  rw [readScript, readScript, locate_put_beside found, found]
  dsimp only
  rw [content?_put, if_neg elsewhere]

/-- The table takes the place of a script that has its name. -/
theorem FileTree.readScript_put_self {path script : String}
    (found : tree.locate path = .file script) (same : Run.csvName path = path)
    (content : String) :
    (tree.put (Run.csvName script) content).readScript path = .ok content := by
  rw [readScript, locate_put_beside found]
  dsimp only
  rw [content?_put, if_pos ((csvName_script_eq_self_iff found).mpr same).symm]

/-! ### All runs -/

theorem tree_runCommand_of_not_saved (accepted : Arguments.parse? arguments = some parsed)
    (unsaved : ¬ (parsed.debug = true ∧ (runCommand arguments tree).exit = Run.ok)) :
    (runCommand arguments tree).tree = tree := by
  apply tree_runCommand_of_not_debug
  intro succeeds other acceptedToo
  rw [accepted] at acceptedToo
  cases acceptedToo
  exact Bool.eq_false_iff.mpr fun debug => unsaved ⟨debug, succeeds⟩

/-- A run leaves the script where it is. -/
theorem locate_runCommand (accepted : Arguments.parse? arguments = some parsed) :
    (runCommand arguments tree).tree.locate parsed.fileName = tree.locate parsed.fileName := by
  by_cases saved : parsed.debug = true ∧ (runCommand arguments tree).exit = Run.ok
  · obtain ⟨_, table, script, _, _, located, left⟩ := exists_saved_of_ok accepted saved.1 saved.2
    rw [left, FileTree.locate_put_beside located, located]
  · rw [tree_runCommand_of_not_saved accepted saved]

private theorem readScript_runCommand_of_kept (accepted : Arguments.parse? arguments = some parsed)
    (kept : ¬ (parsed.debug = true ∧ (runCommand arguments tree).exit = Run.ok ∧
      Path.HasCsvExtension parsed.fileName.toList)) :
    (runCommand arguments tree).tree.readScript parsed.fileName =
      tree.readScript parsed.fileName := by
  by_cases saved : parsed.debug = true ∧ (runCommand arguments tree).exit = Run.ok
  · obtain ⟨_, table, script, _, _, located, left⟩ := exists_saved_of_ok accepted saved.1 saved.2
    have different : Run.csvName parsed.fileName ≠ parsed.fileName := fun same =>
      kept ⟨saved.1, saved.2, Run.csvName_eq_self_iff.mp same⟩
    rw [left, FileTree.readScript_put_beside located different]
  · rw [tree_runCommand_of_not_saved accepted saved]

/-- The result of the transcript stands where the script stood. -/
theorem readScript_runCommand_of_overwritten
    (accepted : Arguments.parse? arguments = some parsed) (debug : parsed.debug = true)
    (succeeds : (runCommand arguments tree).exit = Run.ok)
    (extension : Path.HasCsvExtension parsed.fileName.toList) :
    ∃ content csv, tree.readScript parsed.fileName = .ok content ∧
      (Transcript.ofTexts (Script.expressions content) true).result = some csv ∧
      (runCommand arguments tree).tree.readScript parsed.fileName = .ok csv ∧
      content ≠ csv := by
  obtain ⟨content, table, script, read, made, located, left⟩ :=
    exists_saved_of_ok accepted debug succeeds
  refine ⟨content, table.csv, read, ?_, ?_, ?_⟩
  · rcases Run.tableOf_cases content with ⟨_, madeToo, _, result⟩ | ⟨_, failed, _⟩
    · rw [made] at madeToo
      cases madeToo
      exact result
    · rw [made] at failed
      cases failed
  · rw [left, FileTree.readScript_put_self located (Run.csvName_eq_self_iff.mpr extension)]
  · -- The old script was evaluated, and the new one cannot be.
    rintro rfl
    obtain ⟨error, fails⟩ := Run.exists_tableOf_csv_eq_error table
    rw [made] at fails
    cases fails

/-- **A run overwrites its own script exactly if it succeeds in debug mode on a script
with the extension of tables.** The table then stands where the script stood, and the
script is lost. Any other run leaves the script as it was, and refused arguments leave
every file as it was. The name of the script always leads to where it led. -/
theorem readScript_runCommand (arguments : List String) (tree : FileTree) :
    let outcome := runCommand arguments tree
    (Arguments.parse? arguments = none → outcome.tree = tree) ∧
    ∀ parsed, Arguments.parse? arguments = some parsed →
      let overwrites := parsed.debug = true ∧ outcome.exit = Run.ok ∧
        Path.HasCsvExtension parsed.fileName.toList
      outcome.tree.locate parsed.fileName = tree.locate parsed.fileName ∧
      (¬ overwrites →
        outcome.tree.readScript parsed.fileName = tree.readScript parsed.fileName) ∧
      (overwrites → ∃ content csv, tree.readScript parsed.fileName = .ok content ∧
        (Transcript.ofTexts (Script.expressions content) true).result = some csv ∧
        outcome.tree.readScript parsed.fileName = .ok csv ∧ content ≠ csv) := by
  intro outcome
  constructor
  · exact tree_runCommand_of_refused
  · intro parsed accepted overwrites
    exact ⟨locate_runCommand accepted, readScript_runCommand_of_kept accepted,
      fun overwritten => readScript_runCommand_of_overwritten accepted overwritten.1
        overwritten.2.1 overwritten.2.2⟩

/-- Two scripts in debug mode that are kept: one whose name is all extension, and one with
the extension of tables that fails. -/
theorem readScript_runCommand_of_hidden_name :
    let tree := FileTree.ofList [("d/.csv", "x = 1"), ("bad.csv", "x = 1\nx / 0")]
    (runCommand ["--debug", "d/.csv"] tree).exit = Run.ok ∧
      (runCommand ["--debug", "d/.csv"] tree).tree.readScript "d/.csv" = .ok "x = 1" ∧
      (runCommand ["--debug", "bad.csv"] tree).tree.readScript "bad.csv" =
        .ok "x = 1\nx / 0" := by
  intro tree
  have accepted {name : String} (undashed : ∀ rest, name.toList ≠ '-' :: rest) :
      Arguments.parse? ["--debug", name] = some ⟨name, true⟩ :=
    Arguments.parse?_debug undashed
  have hidden : ¬ Path.HasCsvExtension "d/.csv".toList := by
    rw [← Run.csvName_eq_self_iff]
    decide +kernel
  have fails : (runCommand ["--debug", "bad.csv"] tree).exit ≠ Run.ok := by decide +kernel
  refine ⟨by decide +kernel, ?_, ?_⟩
  · have kept := ((readScript_runCommand ["--debug", "d/.csv"] tree).2 _
      (accepted (by intro rest starts; cases starts))).2.1 fun overwrites => hidden overwrites.2.2
    rw [kept]
    decide +kernel
  · have kept := ((readScript_runCommand ["--debug", "bad.csv"] tree).2 _
      (accepted (by intro rest starts; cases starts))).2.1 fun overwrites => fails overwrites.2.1
    rw [kept]
    decide +kernel

/-- A script with the extension of tables is lost. -/
theorem overwrites_script_of_csvExtension :
    let tree := FileTree.ofList [("s.csv", "x = 1")]
    let outcome := runCommand ["--debug", "s.csv"] tree
    Arguments.parse? ["--debug", "s.csv"] = some ⟨"s.csv", true⟩ ∧
      tree.readScript "s.csv" = .ok "x = 1" ∧ outcome.exit = Run.ok ∧
      outcome.tree.readScript "s.csv" =
        .ok "\x22name\x22,\x22value\x22\n\x22x\x22,1\n" ∧
      ¬ outcome.tree.readScript "s.csv" = tree.readScript "s.csv" := by
  decide +kernel

end Reckoner
