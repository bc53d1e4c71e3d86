import Lockstep.Git.Command
import Lockstep.Patch.Reader
import Lockstep.Text.Units

/-!
# Sources of a change

A source knows one change, a pair of snapshots.  It can be asked which paths the
change touches, which lines of a path, and which files the later snapshot holds.
To answer it may give commands.
-/

namespace Lockstep

/-- A question to a source. -/
inductive Question where
  | changedFiles
  | filePatch (path : Text)
  | treeFiles
  deriving DecidableEq, Repr

/-- What knows a change. -/
structure ChangeSource where
  /-- The directory that paths are relative to, unless there is no working copy. -/
  root : Option Text
  /-- Patterns of the files that are exempt from checking. -/
  exemptPatterns : List Text
  /-- The paths that the change touches. -/
  changedFiles : Git.Job (List ChangedFile)
  /-- The changed lines of a path. -/
  filePatch : Text → Git.Job (Option FilePatch)
  /-- The files of the later snapshot. -/
  treeFiles : Git.Job (List Text)

namespace ChangeSource

/-- Paths that are new to the change, without a patch of their own. -/
def untracked (paths : List Text) : List ChangedFile := paths.map (⟨·, .added⟩)

/-- A source over the patches in a diff.  Unless the files of the later snapshot are given, they are
the paths that the change does not delete. -/
def ofDiff (root : Option Text) (diff : Text) (treeFiles : Option (List Text)) (extra : List Text)
    (exemptPatterns : List Text) : ChangeSource :=
  let patches := readPatches diff
  let changed :=
    Text.sortBy (·.path) (patches.map (fun p => ChangedFile.mk p.path p.status) ++ untracked extra)
  { root
    exemptPatterns
    changedFiles := pure changed
    filePatch := fun path => pure (patches.find? (·.path = path))
    treeFiles := pure (treeFiles.getD ((changed.filter (·.status ≠ .deleted)).map (·.path))) }

end ChangeSource

end Lockstep
