import ClassCatalog.Config.Parse
import ClassCatalog.Error
import ClassCatalog.FileTree.Operations

/-!
# Finding the configuration

A configuration file that is asked for must be there. Otherwise the first of the usual places that
has one counts, and without any the settings are the default ones.
-/

namespace ClassCatalog.Config

/-- The usual places of the configuration: the working directory, then the user's folder. -/
def searchPaths (userFolder : Option Path) : List Path :=
  .ofText "berray-doc.toml" ::
    (userFolder.map fun folder => (folder.join "berray-doc").join "config.toml").toList

/-- The settings in a file; the default ones if there is no such file. -/
def loadFrom (tree : FileTree) (path : Path) : Except Error Config :=
  if !tree.pathExists path then .ok {}
  else
    match tree.readText path with
    | .error reason => .error (.file (some path.text) reason)
    | .ok text =>
      match parse text with
      | .error fault => .error (.config (some path.text) fault)
      | .ok config => .ok config

/-- The settings of a run; `asked` is the file that was asked for. -/
def load (tree : FileTree) (userFolder : Option Path) (asked : Option Path) :
    Except Error Config :=
  match asked with
  | some path =>
    if tree.pathExists path then loadFrom tree path
    else .error (.config none (.fileNotFound path.text))
  | none =>
    match (searchPaths userFolder).find? tree.pathExists with
    | some path => loadFrom tree path
    | none => .ok {}

end ClassCatalog.Config
