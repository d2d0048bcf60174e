import ClassCatalog.FileTree.Lookup

/-!
# File operations

Reading, writing and moving files, and making folders. An operation that fails on its own leaves the
tree as it is; `makeFolders` keeps the folders that it made before it failed.
-/

namespace ClassCatalog.FileTree

/-- The content of the file that a path leads to. -/
def readBytes (tree : FileTree) (path : Path) : Except FileError ByteArray :=
  match tree.locate path with
  | .error reason => .error reason
  | .ok location =>
    match tree.get? location with
    | some (file content) => .ok content
    | some (folder _) => .error .isAFolder
    | none => .error .notFound

/-- The text of the file that a path leads to. -/
def readText (tree : FileTree) (path : Path) : Except FileError String :=
  match tree.readBytes path with
  | .error reason => .error reason
  | .ok content =>
    match String.fromUTF8? content with
    | some text => .ok text
    | none => .error .notText

/-- Writes a file, which may be there already. -/
def write (tree : FileTree) (path : Path) (content : ByteArray) : Except FileError FileTree :=
  match tree.place path with
  | .error reason => .error reason
  | .ok (_, .other) => .error .isAFolder
  | .ok (_, .name _ true) => .error .isAFolder
  | .ok (parent, .name name false) =>
    match tree.get? (parent ++ [name]) with
    | some (folder _) => .error .isAFolder
    | _ => .ok (tree.set (parent ++ [name]) (file content))

/-- Makes a folder that is not there yet. -/
def makeFolder (tree : FileTree) (path : Path) : Except FileError FileTree :=
  match tree.place path with
  | .error reason => .error reason
  | .ok (_, .other) => .error .alreadyExists
  | .ok (parent, .name name _) =>
    if (tree.get? (parent ++ [name])).isSome then .error .alreadyExists
    else .ok (tree.set (parent ++ [name]) empty)

/-- Makes a folder unless it is there; the folder above it must be there. -/
def ensureFolder (tree : FileTree) (path : Path) : Except FileError FileTree :=
  match tree.makeFolder path with
  | .ok tree => .ok tree
  | .error reason => if tree.isFolder path then .ok tree else .error reason

/-- Makes a folder unless it is there, with all folders above it. The number bounds how far up this
goes. -/
def makeFoldersWithin : Nat → FileTree → Path → Except FileError Unit × FileTree
  | 0, tree, _ => (.error .notFound, tree)
  | depth + 1, tree, path =>
    if path.isEmpty then (.ok (), tree)
    else
      match tree.ensureFolder path, path.parent? with
      | .ok tree, _ => (.ok (), tree)
      | .error .notFound, some parent =>
        match makeFoldersWithin depth tree parent with
        | (.error reason, tree) => (.error reason, tree)
        | (.ok (), tree) =>
          match tree.ensureFolder path with
          | .ok tree => (.ok (), tree)
          | .error reason => (.error reason, tree)
      | .error reason, _ => (.error reason, tree)

/-- Makes a folder unless it is there, with all folders above it. -/
def makeFolders (tree : FileTree) (path : Path) : Except FileError Unit × FileTree :=
  makeFoldersWithin (path.steps.length + 1) tree path

/-- Whether one location is at or below another. -/
def isWithin (outer inner : Location) : Bool :=
  outer.isPrefixOf inner

/-- Moves what stands at one location to another, where it may replace a file, or an empty folder if
it is a folder itself. -/
def move (tree : FileTree) (source target : Location) : Except FileError FileTree :=
  match tree.get? source with
  | none => .error .notFound
  | some entry =>
    if source = target then .ok tree
    else
      match entry, tree.get? target with
      | file _, some (folder _) => .error .isAFolder
      | folder _, some (file _) => .error .notAFolder
      | folder _, some (folder (_ :: _)) => .error .folderNotEmpty
      | entry, _ => .ok ((tree.erase source).set target entry)

/-- Moves a file or a folder. Both paths must end in a name, a slash behind it means a folder, and a
folder goes neither into itself nor in place of a folder above it. -/
def rename (tree : FileTree) (source target : Path) : Except FileError FileTree :=
  match tree.place source, tree.place target with
  | .error reason, _ => .error reason
  | _, .error reason => .error reason
  | .ok (_, .other), _ => .error .busy
  | _, .ok (_, .other) => .error .busy
  | .ok (sourceParent, .name sourceName sourceSlash),
      .ok (targetParent, .name targetName targetSlash) =>
    let source := sourceParent ++ [sourceName]
    let target := targetParent ++ [targetName]
    match tree.get? source with
    | none => .error .notFound
    | some entry =>
      if entry.isFile && (sourceSlash || targetSlash) then .error .notAFolder
      else if isWithin source targetParent then .error .insideItself
      else if isWithin target sourceParent then .error .folderNotEmpty
      else tree.move source target

end ClassCatalog.FileTree
