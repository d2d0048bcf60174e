import ClassCatalog.FileTree.Error
import ClassCatalog.Path

/-!
# Where a document goes
-/

namespace ClassCatalog

/-- Where a document goes. -/
inductive Target where
  | standardOutput
  | file (path : Path)
deriving DecidableEq, Inhabited

namespace Target

/-- The target that a path names; a hyphen is standard output. -/
def ofPath (path : Path) : Target :=
  if path.parts = [.name "-"] then standardOutput else file path

/-- The target in words. -/
def describe : Target → String
  | standardOutput => "stdout"
  | file path => path.text

end Target

/-- Standard output as a run finds it: it takes everything or, up to a limit, so many characters
before it fails. -/
structure StandardOutput where
  limit : Option (Nat × FileError) := none
deriving DecidableEq, Inhabited

/-- Writes a text to standard output; the other result is the part that was taken. -/
def StandardOutput.write (output : StandardOutput) (text : String) :
    Except FileError Unit × String :=
  match output.limit with
  | none => (.ok (), text)
  | some (room, reason) =>
    if text.length ≤ room then (.ok (), text)
    else (.error reason, String.ofList (text.toList.take room))

end ClassCatalog
