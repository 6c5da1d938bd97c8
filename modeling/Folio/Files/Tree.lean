/-!
# File trees

A file tree says what stands at each location. Reading and writing follow the rules of a file
system without links: what is written needs a directory to stand in, and a directory is never
replaced. Any location may also refuse to be read or written, and a file may take only the first
bytes of what is written.

The names in a tree are texts. What has a name that is not UTF-8 is left out, so every name can be
shown and can be the title of a page.

## Main definitions

* `Folio.FileTree`: a file tree; `FileTree.find?` is what stands at a location.
* `Folio.IoError`: why an access fails.
* `Folio.FileTree.read`, `FileTree.readText`: the content of a file.
* `Folio.FileTree.makeDirectories`, `FileTree.write`, `FileTree.writeFile`: a tree after a change,
  and whether that succeeded.
-/

namespace Folio

/-- The names on the way from the root to a place in a file tree. Every name is a text: there is no
location for a name that is not UTF-8. -/
abbrev Location := List String

/-- What stands at a location. -/
inductive FileEntry where
  | file (bytes : ByteArray)
  | directory

/-- Why an access to a file tree fails. -/
inductive IoError where
  | notFound
  | refused
  | alreadyExists
  | notDirectory
  | isDirectory
  /-- The content of a file is no text. -/
  | notText
  /-- There is no room for all that is to be written. -/
  | noRoom
  deriving DecidableEq, Repr

/-- The text of an error. -/
def IoError.message : IoError → String
  | .notFound => "No such file or directory (os error 2)"
  | .refused => "Permission denied (os error 13)"
  | .alreadyExists => "File exists (os error 17)"
  | .notDirectory => "Not a directory (os error 20)"
  | .isDirectory => "Is a directory (os error 21)"
  | .notText => "stream did not contain valid UTF-8"
  | .noRoom => "No space left on device (os error 28)"

/-- The two kinds of access. -/
inductive Access where
  | reading
  | writing
  deriving DecidableEq, Repr

/-- A file tree. -/
structure FileTree where
  /-- What stands at the locations below the root; of several entries the first counts. -/
  entries : List (Location × FileEntry) := []
  /-- The locations that refuse an access. -/
  refuses : Access → Location → Bool := fun _ _ => false
  /-- How many bytes a file has room for, where this is bounded. -/
  room : Location → Option Nat := fun _ => none

namespace FileTree

/-- What stands at a location. The root is a directory. -/
def find? (tree : FileTree) (location : Location) : Option FileEntry :=
  if location.isEmpty then some .directory else tree.entries.lookup location

/-- A tree with something else at a location. -/
def put (tree : FileTree) (location : Location) (entry : FileEntry) : FileTree :=
  { tree with entries := (location, entry) :: tree.entries.filter fun old => old.1 != location }

theorem lookup_filter_ne {location other : Location} (h : other ≠ location)
    (entries : List (Location × FileEntry)) :
    (entries.filter fun old => old.1 != location).lookup other = entries.lookup other := by
  induction entries with
  | nil => rfl
  | cons entry rest ih =>
    obtain ⟨place, what⟩ := entry
    by_cases same : place = location
    · simp [same, ih, List.lookup_cons, beq_false_of_ne h]
    · simp [same, ih, List.lookup_cons]

theorem find?_put {tree : FileTree} {location : Location} {entry : FileEntry}
    (h : location ≠ []) (other : Location) :
    (tree.put location entry).find? other =
      if other = location then some entry else tree.find? other := by
  by_cases root : other = []
  · subst root
    simp [find?, Ne.symm h]
  · by_cases same : other = location
    · subst same
      simp [find?, put, root]
    · simp [find?, put, root, same, List.lookup_cons, beq_false_of_ne same, lookup_filter_ne]

/-- Whether a file stands at a location. -/
def isFile (tree : FileTree) (location : Location) : Bool :=
  match tree.find? location with
  | some (.file _) => true
  | _ => false

/-- Whether a directory stands at a location. -/
def isDirectory (tree : FileTree) (location : Location) : Bool :=
  match tree.find? location with
  | some .directory => true
  | _ => false

/-- The complaint about a location where nothing stands: a file may be in its way. -/
def absence (tree : FileTree) (location : Location) : IoError :=
  if (List.range location.length).any fun n => tree.isFile (location.take n) then .notDirectory
  else .notFound

/-- The content of the file at a location. -/
def read (tree : FileTree) (location : Location) : Except IoError ByteArray :=
  match tree.find? location with
  | some .directory => .error .isDirectory
  | some (.file bytes) => if tree.refuses .reading location then .error .refused else .ok bytes
  | none => .error (tree.absence location)

/-- The text of the file at a location. -/
def readText (tree : FileTree) (location : Location) : Except IoError String :=
  match tree.read location with
  | .error e => .error e
  | .ok bytes =>
    match String.fromUTF8? bytes with
    | some text => .ok text
    | none => .error .notText

/-- Makes one directory of several; `last` says whether it is the last of them. A file that stands
there is only in the way of the others. -/
def makeDirectory (tree : FileTree) (location : Location) (last : Bool) :
    Except IoError Unit × FileTree :=
  match tree.find? location with
  | some .directory => (.ok (), tree)
  | some (.file _) => (.error (if last then .alreadyExists else .notDirectory), tree)
  | none =>
    if tree.refuses .writing location then (.error .refused, tree)
    else (.ok (), tree.put location .directory)

/-- Makes directories of all locations that lead from `done` along some names. -/
def makeDirectoriesFrom (done : Location) :
    List String → FileTree → Except IoError Unit × FileTree
  | [], tree => (.ok (), tree)
  | name :: rest, tree =>
    match tree.makeDirectory (done ++ [name]) rest.isEmpty with
    | (.ok (), tree) => makeDirectoriesFrom (done ++ [name]) rest tree
    | (.error e, tree) => (.error e, tree)

/-- Makes directories of a location and of those that lead to it. -/
def makeDirectories (tree : FileTree) (location : Location) : Except IoError Unit × FileTree :=
  makeDirectoriesFrom [] location tree

/-- Why no file can be opened for writing at a location, if anything is in the way. -/
def obstacle? (tree : FileTree) (location : Location) : Option IoError :=
  match tree.find? location with
  | some .directory => some .isDirectory
  | some (.file _) => if tree.refuses .writing location then some .refused else none
  | none =>
    if !tree.isDirectory location.dropLast then some (tree.absence location)
    else if tree.refuses .writing location then some .refused
    else none

/-- Writes a file into a directory that exists. Without room for all bytes the first of them are
kept. -/
def write (tree : FileTree) (location : Location) (bytes : ByteArray) :
    Except IoError Unit × FileTree :=
  match tree.obstacle? location with
  | some e => (.error e, tree)
  | none =>
    match tree.room location with
    | none => (.ok (), tree.put location (.file bytes))
    | some n =>
      if bytes.size ≤ n then (.ok (), tree.put location (.file bytes))
      else (.error .noRoom, tree.put location (.file (bytes.extract 0 n)))

/-- Writes a file and makes the directories that it needs. -/
def writeFile (tree : FileTree) (location : Location) (text : String) :
    Except IoError Unit × FileTree :=
  match tree.makeDirectories location.dropLast with
  | (.error e, tree) => (.error e, tree)
  | (.ok (), tree) => tree.write location text.toUTF8

/-- Whether a tree has an entry at a location already. -/
def holds (tree : FileTree) (location : Location) (entry : FileEntry) : Bool :=
  match tree.find? location, entry with
  | some (.file old), .file new => old.data == new.data
  | some .directory, .directory => true
  | _, _ => false

/-- The locations of all files. -/
def files (tree : FileTree) : List Location :=
  ((tree.entries.map Prod.fst).eraseDups).filter tree.isFile

end FileTree

end Folio
