import Lockstep.Check.Change
import Lockstep.Check.Scan
import Lockstep.Git.Source

/-!
# A whole run

A run opens the repository, compares two revisions of it, and either checks the
change or scans the tree.
-/

namespace Lockstep

namespace Check

/-- What a run is to do. -/
structure Task where
  /-- The revisions to compare. -/
  range : Git.RevisionRange := {}
  /-- The patterns of the files to look at. -/
  patterns : List Text := []
  /-- Whether to write about the progress. -/
  verbose : Bool := false
  /-- Whether to scan the tree instead of checking the change. -/
  scan : Bool := false
  deriving DecidableEq, Repr

/-- What is being compared, in words. -/
def comparison (range : Git.RevisionRange) : String :=
  let old := String.ofList (range.old.getD Git.head)
  let new := (range.new.map String.ofList).getD "the working copy"
  s!"Comparing {old} with {new}"

/-- Goes through the files as a task says. -/
def goThrough (change : Change) (disk : FileTree) (task : Task) : Session Unit :=
  if task.scan then scanTree change disk task.verbose task.patterns
  else checkChange change disk task.verbose task.patterns

/-- Runs a task in a directory. -/
def perform (host : Git.Host) (disk : FileTree) (directory : Text) (task : Task) :
    Session Unit := do
  let repository ← Session.embed (Git.Repository.open host directory task.range)
  let change ← Session.ofExcept (Change.ofSource (repository.source host))
  Session.progress task.verbose (comparison task.range)
  goThrough change disk task

/-- Whether a violation was reported. -/
def hasViolation (log : List Event) : Bool :=
  log.any fun
    | .reported _ => true
    | _ => false

/-- The exit code of a run that came to its end: 1 if a violation was reported, and 0 otherwise. -/
def exitCode (log : List Event) : Nat := if hasViolation log then 1 else 0

end Check

end Lockstep
