import Lockstep.Text.Basic

/-!
# Faults of the file system

Why a file could not be opened, read or looked at, in the words of the system.
-/

namespace Lockstep

/-- What was being done to a file. -/
inductive FileAccess where
  | opening
  | inspecting
  deriving DecidableEq, Repr

/-- The system's word for it. -/
def FileAccess.word : FileAccess → String
  | .opening => "open"
  | .inspecting => "stat"

/-- Why a path led to no usable file. -/
inductive FileFault where
  /-- There is nothing at the path. -/
  | missing (access : FileAccess) (path : Text)
  /-- The path leads through something that is not a directory. -/
  | notDirectory (access : FileAccess) (path : Text)
  /-- A name on the path is too long. -/
  | nameTooLong (access : FileAccess) (path : Text)
  /-- A directory was read as a file. -/
  | isDirectory
  deriving DecidableEq, Repr

/-- The fault in the system's words. -/
def FileFault.message : FileFault → String
  | .missing access path =>
    s!"ENOENT: no such file or directory, {access.word} '{String.ofList path}'"
  | .notDirectory access path => s!"ENOTDIR: not a directory, {access.word} '{String.ofList path}'"
  | .nameTooLong access path =>
    s!"ENAMETOOLONG: name too long, {access.word} '{String.ofList path}'"
  | .isDirectory => "EISDIR: illegal operation on a directory, read"

end Lockstep
