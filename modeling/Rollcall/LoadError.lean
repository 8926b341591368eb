import Rollcall.Path
import Rollcall.Text.Quoted

/-!
# Load errors

Why the sources of a program cannot be loaded.
-/

namespace Rollcall

/-- A reason why loading fails. -/
inductive LoadError where
  | pathNotFound (path : String)
  | directoryNotFound (path : String)
  | unsupportedExtension (extension : String)
  | noPaths
  | isDirectory (path : Path)
  | notPermitted (path : Path)
  | nameTooLong (path : Path)
  | nullCharacter
deriving DecidableEq, Repr, Inhabited

namespace LoadError

/-- The message of an error. -/
def message : LoadError → String
  | .pathNotFound path => "Path not found: " ++ path
  | .directoryNotFound path => "Directory not found: " ++ path
  | .unsupportedExtension extension => "Unsupported file extension: " ++ extension
  | .noPaths => "At least one path is required to guess the assembly name."
  | .isDirectory path => "[Errno 21] Is a directory: " ++ Text.quoted path.render
  | .notPermitted path => "[Errno 13] Permission denied: " ++ Text.quoted path.render
  | .nameTooLong path => "[Errno 36] File name too long: " ++ Text.quoted path.render
  | .nullCharacter => "embedded null byte"

end LoadError

end Rollcall
