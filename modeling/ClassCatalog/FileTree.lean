/-!
# File trees

A file tree is a folder of files and folders, seen from the working directory. A location is the
list of names that leads from its top to a file or a folder.
-/

namespace ClassCatalog

/-- A file with its content, or a folder with its entries by name. -/
inductive FileTree where
  | file (content : ByteArray)
  | folder (entries : List (String × FileTree))
deriving Inhabited

/-- The names that lead to a file or a folder. -/
abbrev Location := List String

namespace FileTree

/-- The tree without any file. -/
def empty : FileTree :=
  folder []

/-- Whether a tree is a single file. -/
def isFile : FileTree → Bool
  | file _ => true
  | folder _ => false

/-- What stands at a location. -/
def get? : FileTree → Location → Option FileTree
  | tree, [] => some tree
  | file _, _ :: _ => none
  | folder entries, name :: rest =>
    match entries.lookup name with
    | some entry => entry.get? rest
    | none => none

/-- The content of the file at a location. -/
def content? (tree : FileTree) (location : Location) : Option ByteArray :=
  match tree.get? location with
  | some (file content) => some content
  | _ => none

/-- The entries with another one under a name, which keeps its place if it is known. -/
def putEntry (name : String) (entry : FileTree) :
    List (String × FileTree) → List (String × FileTree)
  | [] => [(name, entry)]
  | (key, old) :: rest =>
    if key = name then (name, entry) :: rest else (key, old) :: putEntry name entry rest

/-- The tree with another file or folder at a location. Folders on the way that are missing are
made; below a file nothing changes. -/
def set : FileTree → Location → FileTree → FileTree
  | _, [], entry => entry
  | file content, _ :: _, _ => file content
  | folder entries, name :: rest, entry =>
    folder (putEntry name (set ((entries.lookup name).getD empty) rest entry) entries)

/-- The tree without what stands at a location. -/
def erase : FileTree → Location → FileTree
  | tree, [] => tree
  | file content, _ :: _ => file content
  | folder entries, [name] => folder (entries.filter fun entry => entry.1 != name)
  | folder entries, name :: rest =>
    match entries.lookup name with
    | some entry => folder (putEntry name (erase entry rest) entries)
    | none => folder entries

mutual

/-- The files of a tree with their locations; `location` is where the tree stands. -/
def filesBelow (location : Location) : FileTree → List (Location × ByteArray)
  | .file content => [(location, content)]
  | .folder entries => filesAmong location entries

/-- The files of some entries with their locations; `location` is where their folder stands. -/
def filesAmong (location : Location) : List (String × FileTree) → List (Location × ByteArray)
  | [] => []
  | (name, entry) :: rest =>
    filesBelow (location ++ [name]) entry ++ filesAmong location rest

end

end FileTree

end ClassCatalog
