import Reckoner.Text.Quoted

/-!
Contract: why a file cannot be opened.

Owns: the causes, with the numbers and the texts that the system gives them, and
the message of an error.

Does not own: which path leads to an error, or what becomes of a run that meets
one.
-/

namespace Reckoner

/-- What keeps a file from being opened. -/
inductive FileError.Cause where
  | notFound
  | notDirectory
  | isDirectory
  | nameTooLong
deriving DecidableEq, Repr

/-- An error of opening a file, with the path as it was given. -/
structure FileError where
  cause : FileError.Cause
  path : String
deriving DecidableEq, Repr

namespace FileError

def Cause.number : Cause → Nat
  | .notFound => 2
  | .notDirectory => 20
  | .isDirectory => 21
  | .nameTooLong => 36

def Cause.text : Cause → String
  | .notFound => "No such file or directory"
  | .notDirectory => "Not a directory"
  | .isDirectory => "Is a directory"
  | .nameTooLong => "File name too long"

def message (error : FileError) : String :=
  "[Errno " ++ toString error.cause.number ++ "] " ++ error.cause.text ++ ": " ++
    Text.quote error.path

end FileError

end Reckoner
