import Lockstep.Change.Session
import Lockstep.Path

/-!
# Questions about a change

What the checks need to know about a change: which of its paths some patterns
select, which files of the tree they select, whether a range of lines was touched,
whether a file was deleted or is exempt, and where it lies.
-/

namespace Lockstep

/-- A path that patterns select, or a pattern that selects no path. -/
inductive Selection where
  | path (path : Text)
  | unused (pattern : Text)
  deriving DecidableEq, Repr

/-- What a set of patterns selects from some paths: the selected paths in order, then every pattern
that matches none of them.  A pattern that excludes never selects anything. -/
def selections (set : PatternSet) (paths : List Text) : List Selection :=
  let selected := paths.filter set.selects
  let unused := set.filter fun p => p.negated || !selected.any p.test
  selected.map .path ++ unused.map fun p => .unused p.text

namespace Session

/-- What patterns select from the paths of the change.  No patterns select all of them. -/
def select (change : Change) (patterns : List Text) : Session (List Selection) := do
  let files ← changedFiles change
  let paths := files.map (·.path)
  if patterns.isEmpty then pure (paths.map .path)
  else do
    let set ← ofExcept (PatternSet.compile patterns)
    pure (selections set paths)

/-- The files of the later snapshot that patterns select, changed or not.  No patterns select all of
them. -/
def treePaths (change : Change) (patterns : List Text) : Session (List Text) := do
  let files ← treeFiles change
  if patterns.isEmpty then pure files
  else do
    let set ← ofExcept (PatternSet.compile patterns)
    pure (files.filter set.selects)

/-- The status of a path, if the change touches it. -/
def status? (change : Change) (path : Text) : Session (Option ChangeStatus) := do
  let files ← changedFiles change
  pure ((files.find? (·.path = path)).map (·.status))

/-- Whether the change adds or removes a line in a range of a file.  All of a new file counts. -/
def touches (change : Change) (path : Text) (range : LineRange) : Session Bool := do
  let status ← status? change path
  match status with
  | none => pure false
  | some .added => pure true
  | some _ => do
    let patch ← filePatch change path
    pure (patch.any (·.touches range))

/-- Whether the change deletes a file. -/
def isDeleted (change : Change) (path : Text) : Session Bool := do
  let status ← status? change path
  pure (status = some .deleted)

end Session

/-- Whether the change exempts a file from checking. -/
def Change.isExempt (change : Change) (path : Text) : Bool := change.exempt.selects path

/-- Where a file lies.  Without a working copy it lies nowhere. -/
def Change.locate (change : Change) (path : Text) : Except Failure Text :=
  match change.source.root with
  | none => .error .bareRepository
  | some root => .ok (Path.join root path)

end Lockstep
