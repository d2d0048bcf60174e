/-!
# Why a file operation fails
-/

namespace ClassCatalog

/-- Why a file cannot be read, written or moved, or a stream cannot be written. -/
inductive FileError where
  | notFound
  | busy
  | alreadyExists
  | notAFolder
  | isAFolder
  | insideItself
  | folderNotEmpty
  | notText
  | noSpace
  | closed
deriving DecidableEq, Inhabited

namespace FileError

/-- The reason in words. -/
def message : FileError → String
  | notFound => "No such file or directory (os error 2)"
  | busy => "Device or resource busy (os error 16)"
  | alreadyExists => "File exists (os error 17)"
  | notAFolder => "Not a directory (os error 20)"
  | isAFolder => "Is a directory (os error 21)"
  | insideItself => "Invalid argument (os error 22)"
  | folderNotEmpty => "Directory not empty (os error 39)"
  | notText => "stream did not contain valid UTF-8"
  | noSpace => "No space left on device (os error 28)"
  | closed => "Broken pipe (os error 32)"

end FileError

end ClassCatalog
