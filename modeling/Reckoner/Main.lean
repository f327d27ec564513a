import Reckoner.CommandLine.Run

/-!
Contract: the command, on the files of the machine.

Owns: reading the script, printing, and writing the saved table.

Does not own: what is printed or saved.
-/

namespace Reckoner

/-- Opens a file. A file that is not found is left to the run to tell; no other error
is handled here or there. -/
def openFile {α : Type} (fileName : String) (action : IO α) : IO (Except FileError α) := do
  try
    return .ok (← action)
  catch
    | .noFileOrDirectory _ _ _ => return .error ⟨.notFound, fileName⟩
    | error => throw error

/-- Ends the program as a run ends. -/
def Exit.perform : Exit → IO UInt32
  | .code number => return number.toUInt32
  | .uncaught error => throw (IO.userError error.message)

/-- Prints what a run prints, saves what it saves, and ends as it does. -/
def Run.perform (arguments : Arguments) (run : Run) : IO UInt32 := do
  IO.print run.output
  match run.save with
  | none => run.exit.perform
  | some save =>
      match ← openFile save.fileName (IO.FS.writeFile save.fileName save.content) with
      | .ok _ =>
          IO.print save.confirmation
          run.exit.perform
      | .error error =>
          let stopped := Run.ofFileError arguments error
          IO.print stopped.output
          stopped.exit.perform

end Reckoner

/-- Runs the script named by the arguments. -/
def main (arguments : List String) : IO UInt32 := do
  match Reckoner.Arguments.parse? arguments with
  | none =>
      if Reckoner.Arguments.asksForHelp arguments then
        IO.print Reckoner.Arguments.help
        Reckoner.Run.ok.perform
      else
        IO.eprintln Reckoner.Arguments.usageLine
        Reckoner.Run.usage.perform
  | some parsed =>
      let reading ← Reckoner.openFile parsed.fileName (IO.FS.readFile parsed.fileName)
      (Reckoner.Run.ofReading parsed reading).perform parsed
