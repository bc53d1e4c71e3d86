import Lockstep.Block.Names
import Lockstep.Disk.Fault

/-!
# Violations

What a run can find wrong with a change or with the markers of a file.  A
violation of an obligation names the file that states it, the line of the closing
marker, and what was expected.
-/

namespace Lockstep

/-- The place where an obligation is stated. -/
structure Stated where
  /-- The file that states it. -/
  file : Text
  /-- The line of the closing marker. -/
  line : Nat
  deriving DecidableEq, Repr

/-- Something that is wrong. -/
inductive Violation where
  /-- The markers of a file are in error. -/
  | malformed (path : Text) (error : BlockError)
  /-- A name is given to a second block. -/
  | duplicate (path : Text) (name : DuplicateName)
  /-- A file that should be checked cannot be read. -/
  | unreadable (path : Text) (fault : FileFault)
  /-- An obligation points at no file. -/
  | noTarget (pattern : Text) (stated : Stated)
  /-- What an obligation points at has not been changed. -/
  | untouched (target : Text) (stated : Stated)
  /-- A file that an obligation points into cannot be read. -/
  | unopenable (target : Text) (stated : Stated) (fault : FileFault)
  /-- A file that an obligation points into has no block of the name. -/
  | noBlock (name target : Text) (stated : Stated)
  deriving DecidableEq, Repr

/-- The place of an obligation in words. -/
def Stated.phrase (s : Stated) : String :=
  s!"\"then-change\" in {s.file.quote} at line {s.line}"

/-- The violation in words. -/
def Violation.message : Violation → String
  | .malformed path error => error.message path
  | .duplicate path name => name.message path
  | .unreadable path fault => s!"Failed to read {path.quote}: {fault.message}."
  | .noTarget pattern stated =>
    s!"Could not find any file matching {pattern.quote} for {stated.phrase}."
  | .untouched target stated =>
    s!"Expected {target.quote} to be modified because of {stated.phrase}."
  | .unopenable target stated fault =>
    s!"Could not open {target.quote} for {stated.phrase}: {fault.message}."
  | .noBlock name target stated =>
    s!"Could not find \"if-changed\" with name {name.quote} in {target.quote} for {stated.phrase}."

end Lockstep
