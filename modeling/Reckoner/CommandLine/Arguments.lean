import Reckoner.Text.Blank
import Reckoner.Text.DecimalDigit

/-!
Contract: the arguments of the command line.

The command takes one file name and the flag `--debug`, in any order; the flag
may be repeated and cut short to any beginning of it that no other option
shares. An argument that begins with a dash is a file name all the same where
it is a lone dash, a negative number, or holds a space. After the marker `--`
everything is a file name; the marker must stand next to the file name, before
it or at the very end. The first flag that asks for help is followed at once,
whatever the other arguments are, as long as no flag is ambiguous and none
before it is misused.

Owns: the classes of arguments, the reading of an argument list, and the help.

Does not own: the messages about arguments that are refused.
-/

namespace Reckoner

/-- What the arguments ask for. -/
structure Arguments where
  fileName : String
  debug : Bool
deriving DecidableEq

namespace Arguments

/-- What one argument is. -/
inductive Class where
  | fileName
  | debugFlag
  | helpFlag
  /-- A flag with a value, which no flag takes. -/
  | misused
  /-- The beginning of more than one flag. -/
  | ambiguous
  | unknown
deriving DecidableEq, Repr

/-- The classes of arguments that a run can be asked for with. -/
def Class.isAccepted : Class → Bool
  | .fileName | .debugFlag => true
  | .helpFlag | .misused | .ambiguous | .unknown => false

/-- The marker after which every argument is a file name. -/
def endOfFlags : String :=
  "--"

/-- The long options, with what they are. -/
def longOptions : List (List Char × Class) :=
  [("--debug".toList, .debugFlag), ("--help".toList, .helpFlag)]

/-- The long options that begin with the given characters. -/
def optionsFrom (start : List Char) : List (List Char × Class) :=
  longOptions.filter fun option => start.isPrefixOf option.1

/-- Digits after a dash, with an optional point before the last of them. -/
def isNegativeNumber (characters : List Char) : Bool :=
  match Text.dropFinalLineFeed characters with
  | '-' :: rest =>
      match rest.dropWhile Text.isDecimalDigit with
      | [] => !rest.isEmpty
      | '.' :: fraction => !fraction.isEmpty && fraction.all Text.isDecimalDigit
      | _ => false
  | _ => false

/-- A dash-led argument that no option claims is a file name where it is a
negative number or holds a space. -/
def classifyUnclaimed (characters : List Char) : Class :=
  if isNegativeNumber characters || characters.contains ' ' then .fileName else .unknown

/-- The short option for help with what stands behind it. It may be repeated behind
one dash; an equals sign or a dash behind it makes it misused. -/
def classifyShortHelp (behind : List Char) : Class :=
  match behind.dropWhile (· == 'h') with
  | '=' :: _ | '-' :: _ => .misused
  | _ => .helpFlag

/-- The class of an argument that stands before the marker. -/
def classify (argument : String) : Class :=
  let characters := argument.toList
  match characters with
  | '-' :: '-' :: _ =>
      let start := characters.takeWhile (· != '=')
      match optionsFrom start with
      | [] => classifyUnclaimed characters
      | [(_, flag)] => if start = characters then flag else .misused
      | _ => .ambiguous
  | ['-'] => .fileName
  | '-' :: 'h' :: behind => classifyShortHelp behind
  | '-' :: _ => classifyUnclaimed characters
  | _ => .fileName

/-- The arguments before the marker, with their classes. -/
def beforeMarker (arguments : List String) : List (String × Class) :=
  (arguments.takeWhile (· != endOfFlags)).map fun argument => (argument, classify argument)

/-- The file name among classified arguments and the marker's arguments, if
there is exactly one and the marker, where there is one, stands next to it. -/
def fileName? (before : List (String × Class)) (after : Option (List String)) :
    Option String :=
  match before.filter fun (_, kind) => kind == .fileName, after with
  | [(name, _)], none => some name
  | [(name, _)], some [] =>
      match before.getLast? with
      | some (_, .fileName) => some name
      | _ => none
  | [], some [name] => some name
  | _, _ => none

/-- Reads an argument list; `none` where no run is asked for. -/
def parse? (arguments : List String) : Option Arguments :=
  let before := beforeMarker arguments
  let after :=
    match arguments.dropWhile (· != endOfFlags) with
    | [] => none
    | _ :: rest => some rest
  if before.all fun (_, kind) => kind.isAccepted then
    (fileName? before after).map fun fileName =>
      { fileName, debug := before.any fun (_, kind) => kind == .debugFlag }
  else none

/-- Whether the arguments ask for help. Ambiguous flags are looked for before any
flag is followed, and misused ones as the flags are followed in turn. -/
def asksForHelp (arguments : List String) : Bool :=
  let kinds := (beforeMarker arguments).map Prod.snd
  !kinds.contains .ambiguous &&
    kinds.find? (fun kind => kind == .helpFlag || kind == .misused) == some .helpFlag

/-- What is shown where the arguments are refused, and above the help. -/
def usageLine : String :=
  "usage: expr [-h] [--debug] filename"

/-- What is printed for those who ask for help. -/
def help : String :=
  usageLine ++ "\n\n" ++
  "Arithmetic expression interpreter\n\n" ++
  "positional arguments:\n" ++
  "  filename    File with one expression per line\n\n" ++
  "options:\n" ++
  "  -h, --help  show this help message and exit\n" ++
  "  --debug     Save the variable table in CSV format\n"

end Arguments

end Reckoner
