import Lockstep.Change.Source
import Lockstep.Git.Trailer

/-!
# A change in a repository

The source of a change between two revisions of a repository.  Without an older
revision the change starts at the head; without a newer one it ends in the working
copy, staged or not.
-/

namespace Lockstep

namespace Git

/-- The revisions to compare. -/
structure RevisionRange where
  /-- The older revision. -/
  old : Option Text := none
  /-- The newer revision. -/
  new : Option Text := none
  deriving DecidableEq, Repr

/-- The revision that a change starts at unless another one is given. -/
def head : Text := "HEAD".toList

/-- The options that every diff is asked for with. -/
def diffOptions : List Text :=
  words ["--no-color", "--no-ext-diff", "--no-textconv", "--no-renames"]

/-- A change in a repository, ready to be asked about. -/
structure Repository where
  /-- The directory that commands run in. -/
  directory : Text
  /-- The top of the working copy, if there is one. -/
  root : Option Text
  /-- The tree that the change starts at. -/
  oldTree : Text
  /-- The tree that the change ends in, unless it ends in the working copy. -/
  newTree : Option Text
  /-- Patterns of the files that are exempt from checking. -/
  exemptPatterns : List Text
  deriving DecidableEq, Repr

/-! ## Opening -/

/-- Asks for the object of a kind that a revision names. -/
def resolveCommand (directory revision : Text) (kind : String) : Command :=
  { arguments := words ["rev-parse", "--verify", "--quiet"] ++
      [revision ++ ("^\x7b" ++ kind ++ "\x7d").toList],
    directory }

/-- The tree of a revision, if there is one. -/
def tree? (host : Host) (directory revision : Text) : Job (Option Text) := do
  let output ← run host (resolveCommand directory revision "tree")
  pure (if output.code = 0 then some output.stdout.trim else none)

/-- The tree that a change starts at.  In a repository without a commit that is the empty tree. -/
def startTree (host : Host) (directory : Text) (revision : Option Text) : Job Text := do
  let tree ← tree? host directory (revision.getD head)
  match tree, revision with
  | some tree, _ => pure tree
  | none, none => do
    let tree ← succeed host
      { arguments := words ["hash-object", "-t", "tree", "--stdin"], directory, input := some [] }
    pure tree.trim
  | none, some revision => Run.stop (.noRevision revision)

/-- The exemptions of a revision.  A revision that is no commit has no message and so none. -/
def readExemptions (host : Host) (directory revision : Text) : Job (List Text) := do
  let commit ← run host (resolveCommand directory revision "commit")
  if commit.code ≠ 0 then pure []
  else do
    let trailers ← succeed host
      { arguments :=
          words ["log", "-1", "--format=%(trailers:only,unfold)"] ++ [commit.stdout.trim],
        directory }
    pure (exemptions trailers)

/-- The top of the working copy around a directory, if there is a working copy. -/
def workingCopy? (host : Host) (directory : Text) (range : RevisionRange) : Job (Option Text) := do
  let bare ← run host { arguments := words ["rev-parse", "--is-bare-repository"], directory }
  if bare.code ≠ 0 then Run.stop (.noRepository directory bare.stderr.trim)
  else if bare.stdout.trim ≠ "true".toList then do
    let top ← succeed host { arguments := words ["rev-parse", "--show-toplevel"], directory }
    pure (some top.trim)
  else if range.new.isNone then Run.stop .bareRepository
  else pure none

/-- The tree that a change ends in, with the exemptions of its revision. -/
def endTree (host : Host) (directory : Text) (revision : Option Text) :
    Job (Option Text × List Text) := do
  match revision with
  | none => pure (none, [])
  | some revision => do
    let tree ← tree? host directory revision
    match tree with
    | none => Run.stop (.noRevision revision)
    | some tree => do
      let exempt ← readExemptions host directory revision
      pure (some tree, exempt)

/-- Opens the repository around a directory for a range of revisions. -/
def Repository.open (host : Host) (directory : Text) (range : RevisionRange) : Job Repository := do
  let root ← workingCopy? host directory range
  let directory := root.getD directory
  let old ← startTree host directory range.old
  let (new, exemptPatterns) ← endTree host directory range.new
  pure { directory, root, oldTree := old, newTree := new, exemptPatterns }

/-! ## Asking -/

/-- The trees that a diff compares. -/
def Repository.trees (r : Repository) : List Text := r.oldTree :: r.newTree.toList

/-- The status that a letter stands for. -/
def statusOf (letter : Text) : ChangeStatus :=
  match letter with
  | 'A' :: _ => .added
  | 'D' :: _ => .deleted
  | _ => .modified

/-- The files in a listing of letters and paths. -/
def pairUp : List Text → List ChangedFile
  | letter :: path :: rest => ⟨path, statusOf letter⟩ :: pairUp rest
  | _ => []

/-- Asks for a listing of files. -/
def Repository.list (host : Host) (r : Repository) (arguments : List Text) : Job (List Text) := do
  let listing ← succeed host { arguments, directory := r.directory }
  pure listing.splitNul

/-- The paths that the change touches, sorted.  Up to the working copy, files that are not tracked
are new. -/
def Repository.changedFiles (host : Host) (r : Repository) : Job (List ChangedFile) := do
  let fields ← r.list host
    (words ["diff"] ++ diffOptions ++ words ["--name-status", "-z"] ++ r.trees ++ words ["--"])
  let untracked ←
    if r.newTree.isNone then
      r.list host (words ["ls-files", "--others", "--exclude-standard", "-z"])
    else pure []
  pure (Text.sortBy (·.path) (pairUp fields ++ ChangeSource.untracked untracked))

/-- The changed lines of a path.  The diff is restricted to the path, whatever name it gives it. -/
def Repository.filePatch (host : Host) (r : Repository) (path : Text) : Job (Option FilePatch) := do
  let diff ← succeed host
    { arguments := words ["--literal-pathspecs", "diff"] ++ diffOptions
        ++ words ["-U0", "--src-prefix=a/", "--dst-prefix=b/"] ++ r.trees ++ words ["--"] ++ [path],
      directory := r.directory }
  pure ((readPatches diff).head?.map fun patch => { patch with path })

/-- The files of the later snapshot, sorted, each once.  Files of the index that are gone from the
working copy do not count. -/
def Repository.treeFiles (host : Host) (r : Repository) : Job (List Text) := do
  match r.newTree with
  | some tree => do
    let files ← r.list host (words ["ls-tree", "-r", "--name-only", "-z"] ++ [tree])
    pure (Text.sortedDistinct files)
  | none => do
    let listed ← r.list host
      (words ["ls-files", "--cached", "--others", "--exclude-standard", "-z"])
    let gone ← r.list host (words ["ls-files", "--deleted", "-z"])
    pure (Text.sortedDistinct (listed.filter (!gone.contains ·)))

/-- The repository as the source of a change. -/
def Repository.source (host : Host) (r : Repository) : ChangeSource where
  root := r.root
  exemptPatterns := r.exemptPatterns
  changedFiles := r.changedFiles host
  filePatch := r.filePatch host
  treeFiles := r.treeFiles host

end Git

end Lockstep
