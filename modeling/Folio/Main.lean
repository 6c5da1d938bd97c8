import Folio.Command.Run

/-!
# The program

The working directory is read as a file tree, the command runs on it, and what the command has
changed is written back. Highlighting uses the stand-in for a library of grammars and themes.
-/

namespace Folio

/-- What a directory of the file system holds, given with its location in the tree. A file that
cannot be read refuses to be read in the tree as well. -/
partial def loadTree (directory : String) (location : Location) (tree : FileTree) :
    IO FileTree := do
  let mut tree := tree
  for entry in ← (System.mkFilePath [directory]).readDir do
    let here := location ++ [entry.fileName]
    if ← entry.path.isDir then
      tree ← loadTree entry.path.toString here (tree.put here .directory)
    else
      match ← (IO.FS.readBinFile entry.path).toBaseIO with
      | .ok bytes => tree := tree.put here (.file bytes)
      | .error _ =>
        let refuses := tree.refuses
        tree := { tree.put here (.file .empty) with
          refuses := fun access other =>
            (access == .reading && other == here) || refuses access other }
  return tree

/-- Writes back what stands in one tree and not in another, directories first. -/
def storeChanges (before after : FileTree) : IO Unit := do
  let changed := after.entries.filter fun (location, entry) => !before.holds location entry
  for (location, entry) in changed do
    match entry with
    | .directory => IO.FS.createDirAll ("/".intercalate location)
    | .file _ => pure ()
  for (location, entry) in changed do
    match entry with
    | .file bytes => IO.FS.writeBinFile ("/".intercalate location) bytes
    | .directory => pure ()

/-- Runs the command that the arguments name. -/
def runProgram (arguments : List String) : IO UInt32 := do
  let tree ← loadTree "." [] {}
  let stdin ← if arguments.contains Command.inputPath then (← IO.getStdin).readBinToEnd
    else pure .empty
  let outcome := runArguments arguments tree stdin
  storeChanges tree outcome.tree
  (← IO.getStdout).putStr outcome.output
  match outcome.error with
  | some message => (← IO.getStderr).putStrLn ("Error: " ++ message)
  | none =>
    if outcome.code == 2 then (← IO.getStderr).putStrLn "Usage: richdoc <COMMAND>"
  return outcome.code.toUInt32

end Folio

/-- The program. -/
def main (arguments : List String) : IO UInt32 := Folio.runProgram arguments
