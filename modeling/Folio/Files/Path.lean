import Folio.Files.Tree
import Folio.Text.Blank

/-!
# Paths

Users name locations by names with slashes between them; messages repeat a path as it was given.

## Main definitions

* `Folio.Location.ofPath`: the location that a path names.
* `Folio.FileTree.locate`: the same where all directories on the way have to exist.
* `Folio.Directory`, `Folio.Place`: a directory as a user has named it, and a place below it.
* `Folio.stem`, `Folio.extension?`: the parts of a file name.
-/

namespace Folio

/-- The steps of a path. -/
def pathSteps (path : String) : List String :=
  (Text.splitRuns (· == '/') [] path.toList).map String.ofList

/-- The location that a path names. Two dots lead to the directory above. -/
def Location.ofPath (path : String) : Location :=
  (pathSteps path).foldl
    (fun location step =>
      if step == "" || step == "." then location
      else if step == ".." then location.dropLast
      else location ++ [step])
    []

/-- Whether a path can only name a directory. -/
def namesDirectory (path : String) : Bool :=
  ["", ".", ".."].contains ((pathSteps path).getLastD "")

namespace FileTree

/-- Goes along steps from a location. Every step needs a directory to start from. -/
def follow (tree : FileTree) : List String → Location → Except IoError Location
  | [], location => .ok location
  | step :: rest, location =>
    match tree.find? location with
    | none => .error .notFound
    | some (.file _) => .error .notDirectory
    | some .directory =>
      if step == "" || step == "." then tree.follow rest location
      else if step == ".." then tree.follow rest location.dropLast
      else tree.follow rest (location ++ [step])

/-- The location that a path names, where all directories on the way have to exist. Nothing is
known of what is outside the tree. -/
def locate (tree : FileTree) (path : String) : Except IoError Location :=
  if path.isEmpty || path.front == '/' then .error .notFound else tree.follow (pathSteps path) []

/-- The text of the file that a path names. -/
def readPath (tree : FileTree) (path : String) : Except IoError String :=
  (tree.locate path).bind tree.readText

/-- Whether something stands where a path leads. -/
def hasPath (tree : FileTree) (path : String) : Bool :=
  match tree.locate path with
  | .ok location => (tree.find? location).isSome
  | .error _ => false

/-- Writes the file that a path names, and makes the directories that it needs. -/
def writePath (tree : FileTree) (path : String) (text : String) :
    Except IoError Unit × FileTree :=
  if namesDirectory path then (.error .isDirectory, tree)
  else tree.writeFile (Location.ofPath path) text

end FileTree

/-- A directory as a user has named it. -/
structure Directory where
  /-- The path that the user has given. -/
  path : String
  location : Location
  deriving DecidableEq, Repr

/-- A place below a directory. -/
structure Place where
  root : Directory
  /-- The names on the way from the directory. -/
  names : List String
  deriving DecidableEq, Repr

/-- A path with a name below it. -/
def appendName (path name : String) : String :=
  if path.isEmpty || path.back == '/' then path ++ name else path ++ "/" ++ name

/-- A path with names below it. -/
def joinPath (path : String) (names : List String) : String :=
  names.foldl appendName path

/-- The location of a place. -/
def Place.location (place : Place) : Location := place.root.location ++ place.names

/-- The path of a place, as the user would have written it. -/
def Place.path (place : Place) : String := joinPath place.root.path place.names

/-- The name of a file before and after its last dot. A dot at the start does not count. -/
def splitName (name : String) : String × Option String :=
  let cs := name.toList
  let tail := (cs.reverse.takeWhile (· != '.')).reverse
  let before := cs.take (cs.length - tail.length - 1)
  if tail.length = cs.length || before.isEmpty then (name, none)
  else (String.ofList before, some (String.ofList tail))

/-- The name of a file without its extension. -/
def stem (name : String) : String := (splitName name).1

/-- The extension of the name of a file. -/
def extension? (name : String) : Option String := (splitName name).2

end Folio
