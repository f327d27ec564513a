import Mathlib.Data.String.Basic
import Reckoner.Proofs.CommandLine.FileTree
import Reckoner.Proofs.Report.Transcript

/-!
Contract: the command does what a transcript of its script tells.

The command evaluates the expressions of its script without showing them one by
one, and ends as a transcript of these expressions does: with the table, or with
the message of the error. Main statements: the command succeeds exactly if the
transcript comes to its output and the table can be saved where it has to be, it
prints the same table or the same message, and what it saves is the result of the
transcript in debug mode; nothing else is changed, and nothing at all where it
does not save.

Owns: the ending of a transcript, the outcomes of a run, the comparison, how runs end,
help, and a script whose table has too long a name to be saved.

Does not own: which texts fail, or the classes of arguments.
-/

namespace Reckoner

open Text (enclosed line)

variable {tree : FileTree} {arguments : List String} {parsed : Arguments}
  {content : String} {texts : List String} {table : Table} {error : EvalError}

/-! ### The ending of a transcript -/

/-- How a transcript ends: with its output, a summary of the table, or with the
message of an error. -/
inductive Ending where
  | output (summary : String)
  | failure (message : String)
deriving DecidableEq

namespace Ending

def ofTexts (texts : List String) : Ending :=
  let trace := Trace.ofTexts ∅ texts
  match trace.error with
  | none => .output trace.table.summary
  | some error => .failure error.message

/-- The lines that an ending takes in a transcript. -/
def lines : Ending → String
  | .output summary => line "\nOutput:" ++ line summary
  | .failure message => line ("Error: " ++ message)

private theorem ofTexts_of_none (succeeded : (Trace.ofTexts ∅ texts).error = none) :
    ofTexts texts = .output (Trace.ofTexts ∅ texts).table.summary := by
  rw [ofTexts, succeeded]

private theorem ofTexts_of_some (failed : (Trace.ofTexts ∅ texts).error = some error) :
    ofTexts texts = .failure error.message := by
  rw [ofTexts, failed]

end Ending

namespace Transcript

private theorem result_of_none (succeeded : (Trace.ofTexts ∅ texts).error = none) :
    (ofTexts texts true).result = some (Trace.ofTexts ∅ texts).table.csv := by
  rw [ofTexts]
  dsimp only
  rw [succeeded]
  rfl

private theorem result_of_some (failed : (Trace.ofTexts ∅ texts).error = some error) :
    (ofTexts texts true).result = some "" := by
  rw [ofTexts]
  dsimp only
  rw [failed]
  rfl

/-- A transcript shows its texts, the values of those that were evaluated, and its
ending, and in debug mode its result. -/
theorem output_eq (texts : List String) (debug : Bool) :
    (ofTexts texts debug).output =
      echo texts ++ valueLines (Trace.ofTexts ∅ texts).values ++ (Ending.ofTexts texts).lines ++
        if debug then debugLines ((ofTexts texts true).result.getD "") else "" := by
  cases outcome : (Trace.ofTexts ∅ texts).error with
  | none =>
      rw [Ending.ofTexts_of_none outcome, result_of_none outcome, ofTexts]
      dsimp only
      rw [outcome]
      rfl
  | some error =>
      rw [Ending.ofTexts_of_some outcome, result_of_some outcome, ofTexts]
      dsimp only
      rw [outcome]
      rfl

end Transcript

/-! ### The table of a script -/

/-- A run of a trace does what the evaluation of its texts does. -/
theorem Trace.runOn_evaluateAll (texts : List String) :
    ∀ table : Table,
      (evaluateAll texts).runOn table =
        (match (ofTexts table texts).error with
          | none => .ok ()
          | some error => .error error,
        (ofTexts table texts).table) := by
  induction texts with
  | nil => exact fun table => rfl
  | cons text rest inductionHypothesis =>
      intro table
      rw [evaluateAll_cons]
      cases blank : (Text.trim text).isEmpty with
      | true => rw [if_pos rfl, inductionHypothesis, ofTexts_cons_of_blank blank]
      | false =>
          rw [if_neg (by simp)]
          cases evaluated : (evaluate (Text.trim text)).runOn table with
          | mk outcome left =>
              cases outcome with
              | ok value =>
                  rw [EvalM.runOn_bind_of_ok evaluated, inductionHypothesis,
                    ofTexts_cons_of_ok blank evaluated]
              | error error =>
                  rw [EvalM.runOn_bind_of_error evaluated, ofTexts_cons_of_error blank evaluated]

/-- The table of a script is that of the transcript, and so is its error. -/
theorem Run.tableOf_cases (content : String) :
    (∃ table, tableOf content = .ok table ∧
      Ending.ofTexts (Script.expressions content) = .output table.summary ∧
      (Transcript.ofTexts (Script.expressions content) true).result = some table.csv) ∨
    ∃ error, tableOf content = .error error ∧
      Ending.ofTexts (Script.expressions content) = .failure error.message := by
  rw [tableOf, Trace.runOn_evaluateAll]
  cases outcome : (Trace.ofTexts ∅ (Script.expressions content)).error with
  | none =>
      exact .inl ⟨_, rfl, Ending.ofTexts_of_none outcome, Transcript.result_of_none outcome⟩
  | some error => exact .inr ⟨error, rfl, Ending.ofTexts_of_some outcome⟩

/-! ### What a run leaves -/

/-- The file to which the name leads has this content, and everything else is as
it was. -/
structure FileTree.Saved (tree saved : FileTree) (name content : String) : Prop where
  written : saved.readScript name = .ok content
  others : ∀ path, saved.locate name ≠ .file path → saved.content? path = tree.content? path
  directories : saved.directories = tree.directories

private theorem FileTree.saved_of_locate {path script : String}
    (found : tree.locate path = .file script)
    (room : tree.HasRoom (Run.csvName path)) (content : String) :
    tree.Saved (tree.put (Run.csvName script) content) (Run.csvName path) content where
  written := readScript_put_csvName found room content
  others other elsewhere := by
    rw [content?_put, if_neg]
    rintro rfl
    exact elsewhere (locate_put_csvName found room content)
  directories := rfl

/-- A script that is read stands where its name leads. -/
theorem FileTree.exists_locate_of_readScript {path : String}
    (read : tree.readScript path = .ok content) :
    ∃ script, tree.locate path = .file script := by
  rw [readScript] at read
  split at read
  · rename_i script located
    exact ⟨script, located⟩
  · cases read

/-! ### Runs of the command -/

variable {run : Run} {save : Save} {saved : FileTree} {stop : FileError}

theorem runCommand_of_save_none (accepted : Arguments.parse? arguments = some parsed)
    (runs : Run.ofReading parsed (tree.readScript parsed.fileName) = run)
    (nothing : run.save = none) :
    runCommand arguments tree = ⟨run.exit, run.output, tree⟩ := by
  rw [runCommand, accepted]
  dsimp only
  rw [runs, nothing]

theorem runCommand_of_write (accepted : Arguments.parse? arguments = some parsed)
    (runs : Run.ofReading parsed (tree.readScript parsed.fileName) = run)
    (saves : run.save = some save)
    (written : tree.write save.fileName save.content = .ok saved) :
    runCommand arguments tree = ⟨run.exit, run.output ++ save.confirmation, saved⟩ := by
  rw [runCommand, accepted]
  dsimp only
  rw [runs, saves]
  dsimp only
  rw [written]

theorem runCommand_of_write_error (accepted : Arguments.parse? arguments = some parsed)
    (runs : Run.ofReading parsed (tree.readScript parsed.fileName) = run)
    (saves : run.save = some save)
    (unwritten : tree.write save.fileName save.content = .error stop) :
    runCommand arguments tree =
      ⟨(Run.ofFileError parsed stop).exit, run.output ++ (Run.ofFileError parsed stop).output,
        tree⟩ := by
  rw [runCommand, accepted]
  dsimp only
  rw [runs, saves]
  dsimp only
  rw [unwritten]

theorem Run.failure_ne_ok : failure ≠ ok := by decide

private theorem Run.uncaught_ne_ok (stop : FileError) : Exit.uncaught stop ≠ ok :=
  Exit.noConfusion

/-- An error of a file is told if the file is not found, and else it is not handled. -/
theorem Run.exit_ofFileError_cases (parsed : Arguments) (stop : FileError) :
    (ofFileError parsed stop).exit = failure ∨
      (ofFileError parsed stop).exit = .uncaught stop ∧ stop.cause ≠ .notFound := by
  rw [ofFileError]
  cases stop.cause with
  | notFound => exact .inl rfl
  | notDirectory => exact .inr ⟨rfl, FileError.Cause.noConfusion⟩
  | isDirectory => exact .inr ⟨rfl, FileError.Cause.noConfusion⟩
  | nameTooLong => exact .inr ⟨rfl, FileError.Cause.noConfusion⟩

theorem Run.exit_ofFileError_ne_ok (parsed : Arguments) (stop : FileError) :
    (ofFileError parsed stop).exit ≠ ok := by
  rcases exit_ofFileError_cases parsed stop with failed | ⟨uncaught, _⟩
  · rw [failed]
    exact failure_ne_ok
  · rw [uncaught]
    exact uncaught_ne_ok stop

theorem Run.save_ofFileError (parsed : Arguments) (stop : FileError) :
    (ofFileError parsed stop).save = none := by
  rw [ofFileError]
  cases stop.cause with
  | notFound => rfl
  | notDirectory => rfl
  | isDirectory => rfl
  | nameTooLong => rfl

theorem runCommand_of_readScript_error (accepted : Arguments.parse? arguments = some parsed)
    (unread : tree.readScript parsed.fileName = .error stop) :
    runCommand arguments tree =
      ⟨(Run.ofFileError parsed stop).exit, (Run.ofFileError parsed stop).output, tree⟩ := by
  have runs : Run.ofReading parsed (tree.readScript parsed.fileName) =
      Run.ofFileError parsed stop := by rw [unread, Run.ofReading]
  exact runCommand_of_save_none accepted runs (Run.save_ofFileError parsed stop)

/-- A run that saves has succeeded in debug mode. -/
theorem Run.debug_of_save {reading : Except FileError String}
    (saves : (ofReading parsed reading).save = some save) :
    (ofReading parsed reading).exit = ok ∧ parsed.debug = true := by
  cases reading with
  | error stop =>
      rw [ofReading, save_ofFileError] at saves
      cases saves
  | ok text =>
      rw [ofReading] at saves ⊢
      split at saves
      · cases saves
      · cases debug : parsed.debug with
        | false =>
            rw [debug] at saves
            cases saves
        | true => exact ⟨rfl, rfl⟩

/-- Arguments that ask for no run change no file. -/
theorem tree_runCommand_of_refused (refused : Arguments.parse? arguments = none) :
    (runCommand arguments tree).tree = tree := by
  rw [runCommand, refused]
  dsimp only
  split
  · rfl
  · rfl

/-- Unless it succeeds in debug mode, a run leaves every file as it was. -/
theorem tree_runCommand_of_not_debug (arguments : List String) (tree : FileTree)
    (notDebug : (runCommand arguments tree).exit = Run.ok →
      ∀ parsed, Arguments.parse? arguments = some parsed → parsed.debug = false) :
    (runCommand arguments tree).tree = tree := by
  cases accepted : Arguments.parse? arguments with
  | none => exact tree_runCommand_of_refused accepted
  | some parsed =>
      cases saves : (Run.ofReading parsed (tree.readScript parsed.fileName)).save with
      | none => rw [runCommand_of_save_none accepted rfl saves]
      | some save =>
          cases written : tree.write save.fileName save.content with
          | error stop => rw [runCommand_of_write_error accepted rfl saves written]
          | ok saved =>
              -- The one case in which something is written is the excluded one.
              obtain ⟨succeeds, debug⟩ := Run.debug_of_save saves
              rw [runCommand_of_write accepted rfl saves written] at notDebug
              rw [notDebug succeeds parsed accepted] at debug
              cases debug

/-! ### The comparison -/

/-- The outcomes of a run that has read its script, as the transcript of the
expressions tells them. -/
inductive Follows (tree : FileTree) (parsed : Arguments) (texts : List String) :
    RunOutcome → Prop where
  | shown {summary : String} (ends : Ending.ofTexts texts = .output summary)
      (plain : parsed.debug = false) :
      Follows tree parsed texts ⟨Run.ok, line summary, tree⟩
  | saved {summary csv : String} {saved : FileTree}
      (ends : Ending.ofTexts texts = .output summary) (debug : parsed.debug = true)
      (room : tree.HasRoom (Run.csvName parsed.fileName))
      (result : (Transcript.ofTexts texts true).result = some csv)
      (saves : tree.Saved saved (Run.csvName parsed.fileName) csv) :
      Follows tree parsed texts
        ⟨Run.ok, line summary ++ line ("\nVariables saved to: " ++ Run.csvName parsed.fileName),
          saved⟩
  /-- The table is printed, and the error that keeps it from being saved ends the run. -/
  | unsaved {summary : String} (ends : Ending.ofTexts texts = .output summary)
      (debug : parsed.debug = true) (full : ¬ tree.HasRoom (Run.csvName parsed.fileName)) :
      Follows tree parsed texts
        ⟨.uncaught
            ⟨(tree.locate (Run.csvName parsed.fileName)).cause, Run.csvName parsed.fileName⟩,
          line summary, tree⟩
  | failed {message : String} (ends : Ending.ofTexts texts = .failure message) :
      Follows tree parsed texts ⟨Run.failure, line ("Error: " ++ message), tree⟩

theorem Follows.exit_eq_ok_iff {outcome : RunOutcome}
    (follows : Follows tree parsed texts outcome) :
    outcome.exit = Run.ok ↔
      (∃ summary, Ending.ofTexts texts = .output summary) ∧
        (parsed.debug = true → tree.HasRoom (Run.csvName parsed.fileName)) := by
  cases follows with
  | shown ends plain =>
      rw [plain]
      exact ⟨fun _ => ⟨⟨_, ends⟩, Bool.noConfusion⟩, fun _ => rfl⟩
  | saved ends debug room result saves =>
      exact ⟨fun _ => ⟨⟨_, ends⟩, fun _ => room⟩, fun _ => rfl⟩
  | unsaved ends debug full =>
      exact ⟨fun succeeds => absurd succeeds (Run.uncaught_ne_ok _),
        fun both => absurd (both.2 debug) full⟩
  | failed ends =>
      rw [ends]
      exact ⟨fun succeeds => absurd succeeds Run.failure_ne_ok,
        fun both => both.1.elim fun _ output => Ending.noConfusion output⟩

private theorem Run.ofFileError_of_not_hasRoom {name : String} (full : ¬ tree.HasRoom name) :
    let stop : FileError := ⟨(tree.locate name).cause, name⟩
    ofFileError parsed stop = { exit := .uncaught stop, output := "" } := by
  rcases FileTree.not_hasRoom_iff.mp full with isDirectory | tooLong
  · rw [isDirectory]
    rfl
  · rw [tooLong]
    rfl

theorem follows_runCommand (accepted : Arguments.parse? arguments = some parsed)
    (read : tree.readScript parsed.fileName = .ok content) :
    Follows tree parsed (Script.expressions content) (runCommand arguments tree) := by
  have runs : Run.ofReading parsed (tree.readScript parsed.fileName) =
      Run.ofReading parsed (.ok content) := by rw [read]
  rw [Run.ofReading] at runs
  rcases Run.tableOf_cases content with ⟨table, made, ends, result⟩ | ⟨error, failed, ends⟩
  · rw [made] at runs
    cases debug : parsed.debug with
    | false =>
        rw [debug] at runs
        rw [runCommand_of_save_none accepted runs rfl]
        exact .shown ends debug
    | true =>
        rw [debug] at runs
        by_cases room : tree.HasRoom (Run.csvName parsed.fileName)
        · obtain ⟨script, located⟩ := FileTree.exists_locate_of_readScript read
          have written := FileTree.write_csvName located room table.csv
          rw [runCommand_of_write accepted runs rfl written]
          exact .saved ends debug room result (FileTree.saved_of_locate located room _)
        · have unwritten := FileTree.write_of_not_hasRoom room table.csv
          rw [runCommand_of_write_error accepted runs rfl unwritten,
            Run.ofFileError_of_not_hasRoom room]
          dsimp only
          rw [String.append_empty]
          exact .unsaved ends debug room
  · rw [failed] at runs
    rw [runCommand_of_save_none accepted runs rfl]
    exact .failed ends

/-- A table for which there is no room is printed all the same. -/
theorem runCommand_of_not_hasRoom {summary : String}
    (accepted : Arguments.parse? arguments = some parsed)
    (read : tree.readScript parsed.fileName = .ok content) (debug : parsed.debug = true)
    (ends : Ending.ofTexts (Script.expressions content) = .output summary)
    (full : ¬ tree.HasRoom (Run.csvName parsed.fileName)) :
    runCommand arguments tree =
      ⟨.uncaught ⟨(tree.locate (Run.csvName parsed.fileName)).cause, Run.csvName parsed.fileName⟩,
        line summary, tree⟩ := by
  have follows := follows_runCommand accepted read
  generalize runCommand arguments tree = outcome at follows
  cases follows with
  | shown _ plain =>
      rw [debug] at plain
      cases plain
  | saved _ _ room => exact absurd room full
  | unsaved endsToo =>
      rw [ends] at endsToo
      cases endsToo
      rfl
  | failed fails =>
      rw [ends] at fails
      cases fails

/-! ### Endings of a run -/

/-- An error of reading names the path that was asked for. -/
theorem FileTree.path_of_readScript_eq_error {path : String}
    (fails : tree.readScript path = .error stop) : stop.path = path := by
  rw [readScript] at fails
  split at fails
  · split at fails
    · cases fails
    · cases fails
      rfl
  · cases fails
    rfl

/-- Every run ends with one of three codes or with an error that names its script or the
table of it. A file that is not found never ends a run so. -/
theorem exit_runCommand (arguments : List String) (tree : FileTree) :
    let exit := (runCommand arguments tree).exit
    exit = Run.ok ∨ exit = Run.failure ∨ exit = Run.usage ∨
      ∃ parsed stop, Arguments.parse? arguments = some parsed ∧ exit = .uncaught stop ∧
        stop.cause ≠ .notFound ∧
        (stop.path = parsed.fileName ∨ stop.path = Run.csvName parsed.fileName) := by
  intro exit
  cases accepted : Arguments.parse? arguments with
  | none =>
      have ends : exit = Run.ok ∨ exit = Run.usage := by
        simp only [exit, runCommand, accepted]
        split
        · exact .inl rfl
        · exact .inr rfl
      exact ends.imp_right fun refused => .inr (.inl refused)
  | some parsed =>
      cases read : tree.readScript parsed.fileName with
      | error stop =>
          have ends : exit = (Run.ofFileError parsed stop).exit := by
            simp only [exit, runCommand_of_readScript_error accepted read]
          rw [ends]
          rcases Run.exit_ofFileError_cases parsed stop with failed | ⟨uncaught, present⟩
          · exact .inr (.inl failed)
          · exact .inr (.inr (.inr ⟨parsed, stop, rfl, uncaught, present,
              .inl (FileTree.path_of_readScript_eq_error read)⟩))
      | ok content =>
          have follows := follows_runCommand accepted read
          simp only [exit]
          generalize runCommand arguments tree = outcome at follows
          cases follows with
          | shown => exact .inl rfl
          | saved => exact .inl rfl
          | unsaved _ _ full =>
              refine .inr (.inr (.inr ⟨parsed, _, rfl, rfl, ?_, .inr rfl⟩))
              rcases FileTree.not_hasRoom_iff.mp full with isDirectory | tooLong
              · rw [isDirectory]
                exact FileError.Cause.noConfusion
              · rw [tooLong]
                exact FileError.Cause.noConfusion
          | failed => exact .inr (.inl rfl)

/-! ### Help -/

/-- Whoever asks for help asks for no run. -/
theorem Arguments.parse?_of_asksForHelp (asks : asksForHelp arguments = true) :
    parse? arguments = none := by
  rw [asksForHelp, Bool.and_eq_true, beq_iff_eq] at asks
  have isThere := List.mem_of_find?_eq_some asks.2
  obtain ⟨argument, stands, isFlag⟩ := List.mem_map.mp isThere
  have unaccepted :
      ¬ (beforeMarker arguments).all (fun argument => argument.2.isAccepted) = true := by
    intro accepted
    have flagAccepted := List.all_eq_true.mp accepted argument stands
    rw [isFlag] at flagAccepted
    cases flagAccepted
  rw [parse?]
  exact if_neg unaccepted

/-- The help is printed, and nothing is read or saved. -/
theorem runCommand_of_asksForHelp (asks : Arguments.asksForHelp arguments = true) :
    runCommand arguments tree = ⟨Run.ok, Arguments.help, tree⟩ := by
  rw [runCommand, Arguments.parse?_of_asksForHelp asks]
  exact if_pos asks

/-! ### Names that are too long -/

theorem Arguments.classify_of_undashed {name : String}
    (undashed : ∀ rest, name.toList ≠ '-' :: rest) : classify name = .fileName := by
  rw [classify]
  split
  · rename_i starts
    exact absurd starts (undashed _)
  · rename_i starts
    exact absurd starts (undashed _)
  · rename_i starts
    exact absurd starts (undashed _)
  · rename_i starts
    exact absurd starts (undashed _)
  · rfl

theorem Arguments.parse?_debug {name : String} (undashed : ∀ rest, name.toList ≠ '-' :: rest) :
    parse? ["--debug", name] = some ⟨name, true⟩ := by
  have flagIsNoMarker : ("--debug" != endOfFlags) = true := by decide
  have nameIsNoMarker : (name != endOfFlags) = true := by
    rw [bne_iff_ne]
    rintro rfl
    exact undashed ['-'] (by decide)
  have flag : classify "--debug" = .debugFlag := by decide +kernel
  have before :
      beforeMarker ["--debug", name] = [("--debug", .debugFlag), (name, .fileName)] := by
    simp only [beforeMarker, List.takeWhile, flagIsNoMarker, nameIsNoMarker, List.map_cons,
      List.map_nil, flag, classify_of_undashed undashed]
  have after : ["--debug", name].dropWhile (· != endOfFlags) = [] := by
    simp only [List.dropWhile, flagIsNoMarker, nameIsNoMarker]
  rw [parse?, before, after]
  rfl

/-- A name of letters that has the greatest length. -/
def greatestName : List Char :=
  List.replicate FileTree.partLimit 'a'

private theorem slash_not_mem_greatestName : '/' ∉ greatestName := by decide +kernel

private theorem utf8ByteSize_greatestName :
    (String.ofList greatestName).utf8ByteSize ≤ FileTree.partLimit := by
  rw [String.utf8ByteSize_ofList]
  decide +kernel

private theorem partLimit_lt_csvPart_greatestName :
    FileTree.partLimit < (String.ofList (csvPart greatestName)).utf8ByteSize := by
  rw [String.utf8ByteSize_ofList]
  decide +kernel

/-- **The command does what the transcript of its script tells.** If it reads its
script, then it succeeds exactly if the transcript comes to its output and there is room
for the table that debug mode saves. It prints the summary or the error of the transcript,
and in debug mode it saves the result of the transcript, and nothing else. Where there is
no room, it prints the summary and ends with the error of the file. Unless it succeeds in
debug mode, every file is left as it was, whatever the arguments are. -/
theorem runCommand_follows_transcript (arguments : List String) (tree : FileTree) :
    (∀ parsed content, Arguments.parse? arguments = some parsed →
      tree.readScript parsed.fileName = .ok content →
      let texts := Script.expressions content
      ((runCommand arguments tree).exit = Run.ok ↔
        (∃ summary, Ending.ofTexts texts = .output summary) ∧
          (parsed.debug = true → tree.HasRoom (Run.csvName parsed.fileName))) ∧
      Follows tree parsed texts (runCommand arguments tree) ∧
      ∀ debug, (Transcript.ofTexts texts debug).output =
        Transcript.echo texts ++ Transcript.valueLines (Trace.ofTexts ∅ texts).values ++
          (Ending.ofTexts texts).lines ++
            if debug then
              Transcript.debugLines ((Transcript.ofTexts texts true).result.getD "")
            else "") ∧
    (((runCommand arguments tree).exit = Run.ok →
      ∀ parsed, Arguments.parse? arguments = some parsed → parsed.debug = false) →
      (runCommand arguments tree).tree = tree) := by
  refine ⟨?_, tree_runCommand_of_not_debug arguments tree⟩
  intro parsed content accepted read texts
  have follows := follows_runCommand accepted read
  exact ⟨follows.exit_eq_ok_iff, follows, Transcript.output_eq texts⟩

/-- Two expressions below a comment are evaluated, and their table is saved beside
the script. Where the second of them fails, the files are left alone. -/
theorem runCommand_follows_transcript_of_steps :
    let good := "# steps\nx = 1\n\ny = ++x * 2\n"
    let tree := FileTree.ofList [("d/s.expr", good), ("bad", "x = 1\nx / 0")]
    let outcome := runCommand ["--debug", "d/./s.expr"] tree
    outcome.exit = Run.ok ∧
      (∃ csv, (Transcript.ofTexts (Script.expressions good) true).result = some csv ∧
        tree.Saved outcome.tree "d/./s.csv" csv) ∧
      (runCommand ["--debug", "bad"] tree).tree = tree := by
  intro good tree outcome
  have accepted : Arguments.parse? ["--debug", "d/./s.expr"] = some ⟨"d/./s.expr", true⟩ :=
    Arguments.parse?_debug (by intro rest starts; cases starts)
  have read : tree.readScript "d/./s.expr" = .ok good := by decide +kernel
  have csvName : Run.csvName "d/./s.expr" = "d/./s.csv" := by decide +kernel
  have succeeds : outcome.exit = Run.ok := by decide +kernel
  have follows : Follows tree ⟨"d/./s.expr", true⟩ (Script.expressions good) outcome :=
    ((runCommand_follows_transcript ["--debug", "d/./s.expr"] tree).1 _ good accepted read).2.1
  have fails : (runCommand ["--debug", "bad"] tree).exit ≠ Run.ok := by decide +kernel
  refine ⟨succeeds, ?_,
    (runCommand_follows_transcript ["--debug", "bad"] tree).2 fun isOk => absurd isOk fails⟩
  rw [← csvName]
  generalize outcome = reached at follows succeeds ⊢
  cases follows with
  | shown ends plain => cases plain
  | saved ends debug room result saves => exact ⟨_, result, saves⟩
  | unsaved ends debug full => exact absurd succeeds (Run.uncaught_ne_ok _)
  | failed ends => exact absurd succeeds Run.failure_ne_ok

/-- A script whose name has the greatest length is read, and its transcript comes
to the output. But the name of its table is too long, so the command prints the table
and ends with an error that is not handled. -/
theorem not_succeeds_iff_of_greatestName :
    let name := String.ofList greatestName
    let tree := FileTree.put {} name "x = 1"
    let outcome := runCommand ["--debug", name] tree
    Arguments.parse? ["--debug", name] = some ⟨name, true⟩ ∧
      tree.readScript name = .ok "x = 1" ∧
      tree.locate (Run.csvName name) ≠ .directory ∧
      outcome = ⟨.uncaught ⟨.nameTooLong, Run.csvName name⟩, line "(x=1)", tree⟩ ∧
      ¬ (outcome.exit = Run.ok ↔
        ∃ summary, Ending.ofTexts (Script.expressions "x = 1") = .output summary) := by
  intro name tree outcome
  have accepted : Arguments.parse? ["--debug", name] = some ⟨name, true⟩ :=
    Arguments.parse?_debug (by
      rw [String.toList_ofList]
      intro rest starts
      cases starts)
  have located : tree.locate name = .file name :=
    FileTree.locate_put_ofList slash_not_mem_greatestName (by decide) (by decide)
      utf8ByteSize_greatestName "x = 1"
  have tooLong : tree.locate (Run.csvName name) = .tooLong :=
    FileTree.locate_csvName_ofList_of_long slash_not_mem_greatestName
      partLimit_lt_csvPart_greatestName
  have full : ¬ tree.HasRoom (Run.csvName name) := FileTree.not_hasRoom_iff.mpr (.inr tooLong)
  have read : tree.readScript name = .ok "x = 1" := by
    rw [FileTree.readScript, located]
    dsimp only
    rw [FileTree.content?_put, if_pos rfl]
  have ends : Ending.ofTexts (Script.expressions "x = 1") = .output "(x=1)" := by decide +kernel
  have noDirectory : tree.locate (Run.csvName name) ≠ .directory := by
    rw [tooLong]
    decide
  have stops : outcome = ⟨.uncaught ⟨.nameTooLong, Run.csvName name⟩, line "(x=1)", tree⟩ := by
    have unsaved := runCommand_of_not_hasRoom accepted read rfl ends full
    rwa [tooLong] at unsaved
  refine ⟨accepted, read, noDirectory, stops, fun iff => ?_⟩
  have succeeds := iff.mpr ⟨_, ends⟩
  rw [stops] at succeeds
  exact Run.uncaught_ne_ok _ succeeds

end Reckoner
