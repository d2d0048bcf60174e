import ClassCatalog.Error
import ClassCatalog.FileTree.Lookup
import ClassCatalog.Ignore.Rules

/-!
# Source files

The source files of a run are the Java files below its root, in the order of their names from the
root on. Hidden and ignored entries are left out; ignore files above the root count too.
-/

namespace ClassCatalog

namespace FileTree

/-- The rules of an ignore file among the entries of a folder. -/
def rulesAmong (entries : List (String × FileTree)) (name : String) : List Ignore.Rule :=
  match entries.lookup name with
  | some (file content) => Ignore.rulesOf content
  | _ => []

/-- The layer of the ignore files of a folder. -/
def layerOf (entries : List (String × FileTree)) : Ignore.Layer :=
  { primary := rulesAmong entries ".ignore"
    secondary := rulesAmong entries ".gitignore"
    names := [] }

/-- The layers of the folders above a location, the deepest first. -/
def layersAbove (tree : FileTree) (layers : List Ignore.Layer) : Location → List Ignore.Layer
  | [] => layers
  | name :: rest =>
    match tree with
    | file _ => layers
    | folder entries =>
      match entries.lookup name with
      | none => layers
      | some entry =>
        entry.layersAbove ((layerOf entries :: layers).map (Ignore.Layer.enter name)) rest

mutual

/-- The names of the files below a folder that are not left out. `layers` are those of the folders
above it, and `names` lead to it. -/
def visibleFiles (layers : List Ignore.Layer) (names : Location) : FileTree → List Location
  | .file _ => [names]
  | .folder entries => visibleAmong (layerOf entries :: layers) names entries

/-- The names of the files among the entries of a folder and below them that are not left out. -/
def visibleAmong (layers : List Ignore.Layer) (names : Location) :
    List (String × FileTree) → List Location
  | [] => []
  | (name, entry) :: rest =>
    (if Ignore.leavesOut layers name !entry.isFile then []
      else visibleFiles (layers.map (Ignore.Layer.enter name)) (names ++ [name]) entry) ++
    visibleAmong layers names rest

end

end FileTree

namespace SourceFiles

/-- Whether the last of some names is that of a Java file. -/
def isSource (names : Location) : Bool :=
  match names.getLast? with
  | some name => nameExtension? name == some "java"
  | none => false

/-- The source files among the files of a walk, in order. -/
def ofWalk (files : List Location) : List Location :=
  (files.filter isSource).mergeSort fun a b => !decide (b < a)

/-- Whether a path stands for standard input, which has no files below it. -/
def isStandardInput (path : Path) : Bool :=
  path.parts == [.name "-"]

/-- The files that a walk from a root meets, by their names from the root on. -/
def walk (tree : FileTree) (root : Path) : List Location :=
  match tree.locate root with
  | .error _ => []
  | .ok location =>
    match tree.get? location with
    | some entry => entry.visibleFiles (tree.layersAbove [] location) []
    | none => []

/-- The source files below a root, by their names from the root on. -/
def collect (tree : FileTree) (root : Path) : Except Error (List Location) :=
  if !tree.isFolder root then .error (.sourceRootNotFound root.text)
  else if isStandardInput root then .ok []
  else .ok (ofWalk (walk tree root))

end SourceFiles

end ClassCatalog
