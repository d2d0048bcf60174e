import ClassCatalog.Config
import ClassCatalog.Extraction
import ClassCatalog.FileTree.Error

/-!
# Errors

Why a run fails, in words, and the exit code it ends with.
-/

namespace ClassCatalog

/-- Why a run fails. -/
inductive Error where
  | sourceRootNotFound (path : String)
  | unresolved (failure : UnitFailure)
  /-- A fault of the configuration, in a file if it was read from one. -/
  | config (file : Option String) (fault : ConfigError)
  /-- A fault of reading or writing, at a path unless it is one of standard output. -/
  | file (path : Option String) (reason : FileError)
deriving DecidableEq, Inhabited

namespace Error

/-- The error in words. -/
def message : Error → String
  | sourceRootNotFound path => "Source root not found: " ++ path
  | unresolved failure =>
    "Unresolved type in " ++ failure.path ++ ": " ++ failure.cause.message
  | config none fault => "Configuration error: " ++ fault.message
  | config (some path) fault => "Configuration error: " ++ path ++ ": " ++ fault.message
  | file none reason => "IO error: " ++ reason.message
  | file (some path) reason => "IO error at " ++ path ++ ": " ++ reason.message

/-- The exit code of a run that fails. -/
def exitCode : Error → Nat
  | sourceRootNotFound _ => 1
  | file _ _ => 1
  | unresolved _ => 4
  | config _ _ => 5

end Error

end ClassCatalog
