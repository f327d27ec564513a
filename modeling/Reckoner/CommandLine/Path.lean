/-!
Contract: file names as paths.

Owns: the parts of a path between its slashes, and the replacement of the
extension of its last part.

Does not own: what a path leads to.
-/

namespace Reckoner.Path

/-- The parts of a path between its slashes. -/
def parts : List Char → List (List Char)
  | [] => [[]]
  | character :: rest =>
      if character = '/' then [] :: parts rest
      else
        match parts rest with
        | [] => [[character]]
        | part :: others => (character :: part) :: others

/-- A last part without its extension. The extension begins at the last dot,
unless nothing but dots stands before it. -/
def stemOfPart (part : List Char) : List Char :=
  match part.reverse.dropWhile (· != '.') with
  | [] => part
  | _ :: reversedStem =>
      if reversedStem.all (· == '.') then part else reversedStem.reverse

/-- A path without the extension of its last part. -/
def stem (path : List Char) : List Char :=
  let lastPart := (path.reverse.takeWhile (· != '/')).reverse
  path.take (path.length - lastPart.length) ++ stemOfPart lastPart

/-- A path with the extension of its last part replaced, or added where there
is none. -/
def withExtension (path extension : String) : String :=
  String.ofList (stem path.toList ++ '.' :: extension.toList)

end Reckoner.Path
