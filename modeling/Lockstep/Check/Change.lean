import Lockstep.Check.File

/-!
# Checking a change

A check goes through the paths that the change touches and that some patterns
select, and reports what their blocks demand in vain.  Exempt files, deleted files
and directories are passed over.
-/

namespace Lockstep

namespace Check

/-- Checks one selected path that is neither exempt nor deleted. -/
def visitPresent (change : Change) (disk : FileTree) (verbose : Bool) (file : Text) :
    Session Unit := do
  let place ← Session.ofExcept (change.locate file)
  let isDirectory ← Session.ofExcept ((disk.isDirectory place).mapError .file)
  if isDirectory then Session.progress verbose s!"Skipping directory: {String.ofList file}"
  else
    Session.progress verbose s!"Checking changed file: {String.ofList file}"
    let violations ← checkFile change disk file
    Session.reportAll violations

/-- Checks one selected path. -/
def visit (change : Change) (disk : FileTree) (verbose : Bool) (file : Text) : Session Unit :=
  if change.isExempt file then
    Session.progress verbose s!"Skipping exempt file: {String.ofList file}"
  else do
    let isDeleted ← Session.isDeleted change file
    if isDeleted then Session.progress verbose s!"Skipping deleted file: {String.ofList file}"
    else visitPresent change disk verbose file

/-- Goes through what patterns select. -/
def visitAll (change : Change) (disk : FileTree) (verbose : Bool) : List Selection → Session Unit
  | [] => pure ()
  | .unused pattern :: rest => do
    Session.progress verbose s!"No changed file matches {pattern.quote}"
    visitAll change disk verbose rest
  | .path file :: rest => do
    visit change disk verbose file
    visitAll change disk verbose rest

/-- Checks every path of the change that patterns select. -/
def checkChange (change : Change) (disk : FileTree) (verbose : Bool) (patterns : List Text) :
    Session Unit := do
  let selected ← Session.select change patterns
  visitAll change disk verbose selected

end Check

end Lockstep
