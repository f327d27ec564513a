import Reckoner.CommandLine.FileError
import Reckoner.CommandLine.Path
import Reckoner.Pairs

/-!
Contract: a directory of text files, as a value.

The tree holds its files by their paths from the directory. A directory inside
it is there if it was made, or if the path of some file leads through it. A
path may hold empty parts, dots for the directory itself, and double dots for
the one above; nothing outside the tree can be reached. Parts and paths have a
greatest length, counted in bytes.

Owns: the type, making files with the directories on their way, following a
path, and why no file can be opened at a place.

Does not own: which files a run reads or writes.
-/

namespace Reckoner

/-- The files of a directory, by their paths, and the directories made in it,
each by the parts that lead to it. -/
structure FileTree where
  files : List (String × String) := []
  directories : List (List (List Char)) := []
  /-- Each path holds one file. -/
  paths_nodup : (files.map Prod.fst).Nodup := by simp
deriving DecidableEq

namespace FileTree

/-- A part that stands for the directory in which it stands. -/
def isHere (part : List Char) : Bool :=
  part == [] || part == ['.']

/-- A part that stands for the directory above. -/
def isAbove (part : List Char) : Bool :=
  part == ['.', '.']

/-- The path from the directory of the tree through the parts. -/
def pathOf (parts : List (List Char)) : String :=
  String.ofList (['/'].intercalate parts)

/-! ### Making files -/

/-- Replaces the content of the file with this path, or adds the file. -/
def put (tree : FileTree) (path content : String) : FileTree where
  files := Pairs.put path content tree.files
  directories := tree.directories
  paths_nodup := Pairs.nodup_put tree.paths_nodup

/-- Makes the directories that the parts lead through, from a directory on. The
result is the directory where they end, and the tree with those made. -/
def makeWay (tree : FileTree) (directory : List (List Char)) :
    List (List Char) → List (List Char) × FileTree
  | [] => (directory, tree)
  | part :: rest =>
      if isHere part then tree.makeWay directory rest
      else if isAbove part then tree.makeWay directory.dropLast rest
      else
        let place := directory ++ [part]
        makeWay { tree with directories := tree.directories ++ [place] } place rest

/-- Makes a file at a path, with the directories on its way. -/
def make (tree : FileTree) (path content : String) : FileTree :=
  let parts := Path.parts path.toList
  let (directory, made) := tree.makeWay [] parts.dropLast
  made.put (pathOf (directory ++ parts.getLast?.toList)) content

/-- The tree of files that are made one after the other. -/
def ofList (files : List (String × String)) : FileTree :=
  files.foldl (fun tree (path, content) => tree.make path content) {}

/-! ### Following paths -/

/-- What a path leads to. -/
inductive Place where
  | file (path : String)
  | directory
  /-- No such file, but the directory that would hold it is there. -/
  | vacant (path : String)
  | missing
  /-- The path goes on behind a file. -/
  | behindFile
  /-- The path, or a part of it that is looked for, is too long. -/
  | tooLong
deriving DecidableEq

/-- Why no file can be opened here: if nothing is in the way, it is not found. -/
def Place.cause : Place → FileError.Cause
  | .behindFile => .notDirectory
  | .directory => .isDirectory
  | .tooLong => .nameTooLong
  | .file _ | .vacant _ | .missing => .notFound

/-- The greatest number of bytes in a part of a path. -/
def partLimit : Nat := 255

/-- The greatest number of bytes in a path. -/
def pathLimit : Nat := 4095

def isFile (tree : FileTree) (parts : List (List Char)) : Bool :=
  tree.files.any fun (path, _) => path == pathOf parts

def isDirectory (tree : FileTree) (parts : List (List Char)) : Bool :=
  parts.isEmpty || tree.directories.contains parts ||
    tree.files.any fun (path, _) => (pathOf parts ++ "/").toList.isPrefixOf path.toList

/-- Follows the parts of a path from a directory inside the tree. -/
def follow (tree : FileTree) (directory : List (List Char)) : List (List Char) → Place
  | [] => .directory
  | part :: rest =>
      if isHere part then follow tree directory rest
      else if isAbove part then
        if directory.isEmpty then .missing else follow tree directory.dropLast rest
      else if partLimit < (String.ofList part).utf8ByteSize then .tooLong
      else
        let place := directory ++ [part]
        if tree.isDirectory place then follow tree place rest
        else if tree.isFile place then
          if rest.isEmpty then .file (pathOf place) else .behindFile
        else if rest.isEmpty then .vacant (pathOf place) else .missing

/-- What a path leads to from the directory of the tree. -/
def locate (tree : FileTree) (path : String) : Place :=
  if pathLimit < path.utf8ByteSize then .tooLong
  else
    match path.toList with
    | [] => .missing
    | '/' :: _ => .missing
    | characters => tree.follow [] (Path.parts characters)

/-! ### Contents -/

/-- The content of the file with exactly this path. -/
def content? (tree : FileTree) (path : String) : Option String :=
  tree.files.lookup path

/-- The files in ascending order of their paths. -/
def items (tree : FileTree) : List (String × String) :=
  Pairs.sorted tree.files

end FileTree

end Reckoner
