import Reckoner.CommandLine.Arguments
import Reckoner.CommandLine.FileTree
import Reckoner.Report.Transcript
import Reckoner.Script

/-!
Contract: runs of the command.

A run reads a script, evaluates its expressions on an empty table, and prints
the summary of the table. In debug mode it then saves the table as
comma-separated values, under the name of the script with its extension
replaced. A script that is not found, or that cannot be evaluated, is told on one
line. Any other error of a file is not handled: the run ends with it, after all
that it printed before. A run that fails saves nothing and leaves every file as
it was.

Owns: what a run prints and saves, how it ends, and its effect on a tree of
files.

Does not own: the terminal and the file system.
-/

namespace Reckoner

open Text (enclosed line)

/-- How a run ends: with an exit code, or with an error that nothing handles. -/
inductive Exit where
  | code (number : Nat)
  | uncaught (error : FileError)
deriving DecidableEq, Repr

/-- A file to be written, and the line that is printed once it is. -/
structure Save where
  fileName : String
  content : String
  confirmation : String
deriving DecidableEq

/-- What a run prints before it saves, how it ends, and what it saves. -/
structure Run where
  exit : Exit
  output : String
  save : Option Save := none
deriving DecidableEq

namespace Run

def ok : Exit := .code 0

def failure : Exit := .code 1

/-- The end of a run whose arguments are refused. -/
def usage : Exit := .code 2

/-- The name under which a script's table is saved. -/
def csvName (scriptName : String) : String :=
  Path.withExtension scriptName "csv"

/-- The table of a script, or the error that stopped it. -/
def tableOf (content : String) : Except EvalError Table :=
  match (evaluateAll (Script.expressions content)).runOn ∅ with
  | (.ok _, table) => .ok table
  | (.error error, _) => .error error

/-- The run that an error of a file stops. The line names the script, whichever file
is not found. -/
def ofFileError (arguments : Arguments) (error : FileError) : Run :=
  match error.cause with
  | .notFound =>
      { exit := failure
        output := line ("Error: File " ++ enclosed arguments.fileName ++ " not found") }
  | .notDirectory | .isDirectory | .nameTooLong => { exit := .uncaught error, output := "" }

/-- The run that the arguments ask for, once the script has been read. -/
def ofReading (arguments : Arguments) : Except FileError String → Run
  | .error error => ofFileError arguments error
  | .ok text =>
      match tableOf text with
      | .error error => { exit := failure, output := line ("Error: " ++ error.message) }
      | .ok table =>
          { exit := ok
            output := line table.summary
            save :=
              if arguments.debug then
                some
                  { fileName := csvName arguments.fileName
                    content := table.csv
                    confirmation :=
                      line ("\nVariables saved to: " ++ csvName arguments.fileName) }
              else none }

end Run

/-- What is left of a run: how it ended, all that it printed, and the files. -/
structure RunOutcome where
  exit : Exit
  output : String
  tree : FileTree
deriving DecidableEq

namespace FileTree

/-- Reads the script at a path. -/
def readScript (tree : FileTree) (path : String) : Except FileError String :=
  match tree.locate path with
  | .file place =>
      match tree.content? place with
      | some text => .ok text
      | none => .error ⟨.notFound, path⟩
  | place => .error ⟨place.cause, path⟩

/-- Writes a file at a path, if the path leads to a file or to a place for one. -/
def write (tree : FileTree) (path content : String) : Except FileError FileTree :=
  match tree.locate path with
  | .file place | .vacant place => .ok (tree.put place content)
  | place => .error ⟨place.cause, path⟩

end FileTree

/-- Runs the command with an argument list on a tree of files. -/
def runCommand (arguments : List String) (tree : FileTree) : RunOutcome :=
  match Arguments.parse? arguments with
  | none =>
      if Arguments.asksForHelp arguments then ⟨Run.ok, Arguments.help, tree⟩
      else ⟨Run.usage, "", tree⟩
  | some parsed =>
      let run := Run.ofReading parsed (tree.readScript parsed.fileName)
      match run.save with
      | none => ⟨run.exit, run.output, tree⟩
      | some save =>
          match tree.write save.fileName save.content with
          | .ok saved => ⟨run.exit, run.output ++ save.confirmation, saved⟩
          | .error error =>
              let stopped := Run.ofFileError parsed error
              ⟨stopped.exit, run.output ++ stopped.output, tree⟩

end Reckoner
