import ClassCatalog.FileTree
import ClassCatalog.FileTree.Error
import ClassCatalog.Path

/-!
# Paths in a file tree

A path is followed step by step from the top of the tree. Each step needs a folder to start from, so
a slash behind the name of a file leads nowhere. The folder above the top is the top.
-/

namespace ClassCatalog.FileTree

/-- Follows steps from a location. -/
def follow (tree : FileTree) (location : Location) : List String → Except FileError Location
  | [] => .ok location
  | step :: rest =>
    match tree.get? location with
    | none => .error .notFound
    | some (file _) => .error .notAFolder
    | some (folder entries) =>
      if Path.isIdle step then tree.follow location rest
      else if step = ".." then tree.follow location.dropLast rest
      else if (entries.lookup step).isSome then tree.follow (location ++ [step]) rest
      else .error .notFound

/-- The location that a path leads to. -/
def locate (tree : FileTree) (path : Path) : Except FileError Location :=
  if path.isEmpty then .error .notFound else tree.follow [] path.steps

/-- Whether a path leads to a file or a folder. -/
def pathExists (tree : FileTree) (path : Path) : Bool :=
  (tree.locate path).isOk

/-- Whether a path leads to a folder. -/
def isFolder (tree : FileTree) (path : Path) : Bool :=
  match tree.locate path with
  | .ok location =>
    match tree.get? location with
    | some (folder _) => true
    | _ => false
  | .error _ => false

/-- The last step of a path, at which something is made or moved. -/
inductive LastStep where
  /-- A name, perhaps with a slash behind it. -/
  | name (name : String) (slash : Bool)
  /-- A dot, two dots, or the top itself. -/
  | other
deriving DecidableEq, Inhabited

/-- The steps above the last one, and the last one. -/
def splitLast (path : Path) : List String × LastStep :=
  let steps := (path.steps.reverse.dropWhile (· == "")).reverse
  match steps.getLast? with
  | none => ([], .other)
  | some step =>
    (steps.dropLast,
      if step = "." ∨ step = ".." then .other else .name step (steps.length != path.steps.length))

/-- The folder in which the last step of a path is taken, and that step. -/
def place (tree : FileTree) (path : Path) : Except FileError (Location × LastStep) :=
  if path.isEmpty then .error .notFound
  else
    match tree.follow [] ((splitLast path).1 ++ ["."]) with
    | .ok parent => .ok (parent, (splitLast path).2)
    | .error reason => .error reason

end ClassCatalog.FileTree
