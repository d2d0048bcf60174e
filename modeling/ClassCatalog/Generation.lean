import ClassCatalog.Arguments
import ClassCatalog.ClassDoc.Document
import ClassCatalog.FileTree.AtomicWrite
import ClassCatalog.Java.Unit
import ClassCatalog.SourceFiles
import ClassCatalog.Target

/-!
# Generating the document

All source files are read, their classes are documented, and the selected ones are written. Nothing
is written unless all of them were documented.
-/

namespace ClassCatalog

/-! ## Documenting a tree -/

/-- The unit of a source file. -/
def readUnit (tree : FileTree) (root : Path) (names : Location) : Except Error SourceUnit :=
  match tree.readText (root.below names) with
  | .error reason => .error (.file (some (root.below names).text) reason)
  | .ok text => .ok (SourceUnit.ofText ("/".intercalate names) text).1

/-- Documents the selected classes of some units. -/
def documentUnits (config : Config) (units : List SourceUnit) : Except Error Extraction :=
  match extractUnits (TypeIndex.build units config.knownTypes).resolver config.selection units with
  | .error failure => .error (.unresolved failure)
  | .ok extraction => .ok extraction

/-- Documents the selected classes of some source files below a root. -/
def documentFiles (config : Config) (tree : FileTree) (root : Path) (files : List Location) :
    Except Error Extraction := do
  documentUnits config (← files.mapM (readUnit tree root))

/-- Documents the selected classes of the source files below a root. -/
def documentTree (config : Config) (tree : FileTree) (root : Path) : Except Error Extraction := do
  documentFiles config tree root (← SourceFiles.collect tree root)

/-- The document of the source files below a root. -/
def renderTree (config : Config) (layout : Layout) (tree : FileTree) (root : Path) :
    Except Error String := do
  return ClassDoc.document layout (← documentTree config tree root).classes

/-! ## Writing the document -/

/-- What a run says it did. -/
structure Report where
  units : Nat
  seen : Nat
  kept : Nat
  target : Target
deriving DecidableEq, Inhabited

/-- What a run did: its result, the files after it, what went to standard output, and the syntax
trees that were shown, each with the path of its file. -/
structure Generation where
  result : Except Error Report
  files : FileTree
  printed : String := ""
  shown : List (String × Java.Tree) := []

/-- The settings of a run: what the command line says wins. -/
def Config.override (config : Config) (arguments : Arguments) : Config :=
  { config with
    interestingTypes :=
      if arguments.interestingTypes.isEmpty then config.interestingTypes
      else arguments.interestingTypes
    output := arguments.output.getD config.output }

/-- Writes a document to its target. -/
def emit (report : Report) (document : String) (tree : FileTree) (output : StandardOutput) :
    Generation :=
  match report.target with
  | .standardOutput =>
    match output.write (document ++ "\n") with
    | (.error reason, printed) => { result := .error (.file none reason), files := tree, printed }
    | (.ok (), printed) => { result := .ok report, files := tree, printed }
  | .file path =>
    match tree.writeAtomic path document with
    | (.error e, tree) => { result := .error e, files := tree }
    | (.ok (), tree) => { result := .ok report, files := tree }

/-- The syntax trees of some source files below a root, up to the first that cannot be read. -/
def shownTrees (tree : FileTree) (root : Path) : List Location → List (String × Java.Tree)
  | [] => []
  | names :: rest =>
    match tree.readText (root.below names) with
    | .error _ => []
    | .ok text => ("/".intercalate names, Java.parse text.toList) :: shownTrees tree root rest

/-- A run with its command line and configuration, on the files and the standard output that it
finds. -/
def generate (arguments : Arguments) (config : Config) (tree : FileTree)
    (output : StandardOutput := {}) : Generation :=
  let config := config.override arguments
  let root := Path.ofText arguments.sourceRoot
  let files := (SourceFiles.collect tree root).toOption.getD []
  let shown := if arguments.printTree then shownTrees tree root files else []
  match documentTree config tree root with
  | .error e => { result := .error e, files := tree, shown }
  | .ok extraction =>
    let report :=
      { units := extraction.units
        seen := extraction.seen
        kept := extraction.classes.length
        target := .ofPath (.ofText config.output) }
    let document := ClassDoc.document arguments.layout extraction.classes
    { emit report document tree output with shown }

end ClassCatalog
