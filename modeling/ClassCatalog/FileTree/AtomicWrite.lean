import ClassCatalog.Error
import ClassCatalog.FileTree.Operations

/-!
# Writing a file in one step

A file is written under a temporary name beside it and then moved into place, so that no reader sees
half of it and a failure leaves the old content.
-/

namespace ClassCatalog

/-- Where a file is written before it is moved into place. -/
def Path.temporary (path : Path) : Path :=
  path.withName (path.name?.getD "" ++ ".tmp")

namespace FileTree

/-- Makes the folders above a path. -/
def makeParents (tree : FileTree) (path : Path) : Except Error Unit × FileTree :=
  match path.parent? with
  | none => (.ok (), tree)
  | some parent =>
    match tree.makeFolders parent with
    | (.ok (), tree) => (.ok (), tree)
    | (.error reason, tree) => (.error (.file (some parent.text) reason), tree)

/-- Writes a text under the temporary name of a path and moves it into place. -/
def replace (tree : FileTree) (path : Path) (text : String) : Except Error Unit × FileTree :=
  match tree.write path.temporary text.toUTF8 with
  | .error reason => (.error (.file (some path.temporary.text) reason), tree)
  | .ok tree =>
    match tree.rename path.temporary path with
    | .error reason => (.error (.file (some path.text) reason), tree)
    | .ok tree => (.ok (), tree)

/-- Writes a text to a file in one step, with the folders above it. -/
def writeAtomic (tree : FileTree) (path : Path) (text : String) : Except Error Unit × FileTree :=
  match tree.makeParents path with
  | (.error e, tree) => (.error e, tree)
  | (.ok (), tree) => tree.replace path text

end FileTree

end ClassCatalog
