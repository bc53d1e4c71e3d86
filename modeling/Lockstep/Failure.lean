import Lockstep.Disk.Fault
import Lockstep.Glob.Segment
import Lockstep.Text.Quoted

/-!
# Failures

A failure ends a run before its time, as opposed to a violation, which is what a
run reports.
-/

namespace Lockstep

/-- Why a run could not go on. -/
inductive Failure where
  /-- A pattern is longer than patterns may be. -/
  | patternTooLong
  /-- A pattern cannot be written as regular expressions. -/
  | badPattern (e : Glob.BadExpression)
  /-- There is no working copy to look at. -/
  | bareRepository
  /-- A file could not be looked at. -/
  | file (fault : FileFault)
  /-- There is no repository around a directory. -/
  | noRepository (directory reason : Text)
  /-- A revision does not exist. -/
  | noRevision (revision : Text)
  /-- A command ended with an exit code that is not zero. -/
  | command (word : Option Text) (code : Int) (reason : Text)
  /-- Something outside gave this reason. -/
  | other (reason : Text)
  deriving DecidableEq, Repr

/-- The failure in words. -/
def Failure.message : Failure → String
  | .patternTooLong => "pattern is too long"
  | .badPattern e => e.message
  | .bareRepository => "Bare repositories are not supported."
  | .file fault => fault.message
  | .noRepository directory reason =>
    s!"Could not open the repository at {directory.quote}: {String.ofList reason}"
  | .noRevision revision => s!"{revision.quote} is not a valid revision."
  | .command word code reason =>
    let word := (word.map String.ofList).getD "undefined"
    s!"git {word} failed with code {code}: {String.ofList reason}"
  | .other reason => String.ofList reason

/-- The kind of a failure. -/
def Failure.kind : Failure → String
  | .patternTooLong => "TypeError"
  | .badPattern _ => "SyntaxError"
  | _ => "Error"

/-- What a failed run says at its end: the kind of the failure, and what it says if it says
anything. The trace of the failure follows. -/
def Failure.headline (f : Failure) : String :=
  if f.message.isEmpty then f.kind else s!"{f.kind}: {f.message}"

end Lockstep
