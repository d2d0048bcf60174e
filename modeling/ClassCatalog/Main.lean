import ClassCatalog.Program

/-!
# The command line

The files that a run may read are named on standard input, one path a line, seen from the working
directory; a path with a slash at its end names a folder. The run itself is a function of those
files, and afterwards the files that it changed are written back.
-/

namespace ClassCatalog

/-- The location that a path from the working directory names. -/
def locationOf (path : String) : Location :=
  (Path.ofText path).steps.filter fun step => !Path.isIdle step

/-- The files of a tree that another tree does not have with the same content. -/
def changedFiles (before after : FileTree) : List (Location × ByteArray) :=
  (after.filesBelow []).filter fun (location, content) =>
    match before.content? location with
    | some old => old.toList != content.toList
    | none => true

/-- The tree with one more file or folder from the working directory. -/
def addPath (tree : FileTree) (path : String) : IO FileTree := do
  if path.isEmpty then return tree
  if path.endsWith "/" then
    return if (tree.get? (locationOf path)).isSome then tree else tree.set (locationOf path) .empty
  return tree.set (locationOf path) (.file (← IO.FS.readBinFile path))

/-- The tree with all the files and folders that the lines of a stream name. -/
partial def addPaths (lines : IO.FS.Stream) (tree : FileTree) : IO FileTree := do
  let line ← lines.getLine
  if line.isEmpty then return tree
  addPaths lines (← addPath tree line.trimAscii.toString)

/-- Writes a file below the working directory. -/
def store (location : Location) (content : ByteArray) : IO Unit := do
  unless location.dropLast.isEmpty do
    IO.FS.createDirAll ("/".intercalate location.dropLast)
  IO.FS.writeBinFile ("/".intercalate location) content

end ClassCatalog

open ClassCatalog in
def main (arguments : List String) : IO UInt32 := do
  let environment : Environment :=
    { config := ← IO.getEnv "BERRAY_DOC_CONFIG"
      userFolder := (← IO.getEnv "XDG_CONFIG_HOME").map .ofText }
  let before ← addPaths (← IO.getStdin) .empty
  let result := Program.run environment arguments before
  for (location, content) in changedFiles before result.files do
    store location content
  IO.print result.output
  IO.eprint result.errors
  return UInt32.ofNat result.exitCode
