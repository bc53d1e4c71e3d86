import Lockstep.Block.Scan
import Lockstep.Change.Query
import Lockstep.Disk.Tree

/-!
# Checking a file

A changed file is checked block by block.  Wherever the change touches a block,
it has to touch what the block's obligations name: a file for each pattern, or in
a file the block of the given name.  Markers that are in error end the check, and
are then all that is reported.
-/

namespace Lockstep

namespace Check

/-! ## Patterns of obligations -/

/-- A pattern seen from the root.  An empty pattern is the file itself, a slash at the start means
the root, and all else is relative to the directory of the file. -/
def rooted (file pattern : Text) : Text :=
  let body (pattern : Text) : Text :=
    match pattern with
    | [] => file
    | '/' :: rest => Text.dropStart '/' rest
    | _ => Path.join (Path.directory file) pattern
  match pattern with
  | '!' :: pattern => '!' :: body pattern
  | _ => body pattern

/-- An obligation with its pattern seen from the root. -/
structure Demand where
  pattern : Text
  name : Option Text
  stated : Stated
  deriving DecidableEq, Repr

/-- What an obligation of a file demands. -/
def Demand.ofObligation (file : Text) (o : Obligation) : Demand :=
  ⟨rooted file o.pattern, o.name, ⟨file, o.line⟩⟩

/-- Whether a pattern excludes. -/
def isExclusion (pattern : Text) : Bool := pattern.head? = some '!'

/-! ## Demands without a name -/

/-- Why a pattern selects no changed path: there is no such file, or it was left untouched. -/
def unmet (change : Change) (d : Demand) : Session Violation := do
  let existing ← Session.treePaths change [d.pattern]
  pure (if existing.isEmpty then .noTarget d.pattern d.stated else .untouched d.pattern d.stated)

/-- Why each of several demands is not met. -/
def unmetAll (change : Change) : List Demand → Session (List Violation)
  | [] => pure []
  | d :: ds => do
    let v ← unmet change d
    let vs ← unmetAll change ds
    pure (v :: vs)

/-- The patterns that select nothing, each once.  Exclusions demand nothing. -/
def unusedPatterns (selections : List Selection) : List Text :=
  (selections.filterMap fun
    | .path _ => none
    | .unused pattern => if isExclusion pattern then none else some pattern).eraseDups

/-- Checks all demands without a name together.  Without any there is nothing to select by. -/
def checkPlain (change : Change) (demands : List Demand) : Session (List Violation) :=
  if demands.isEmpty then pure []
  else do
    let selections ← Session.select change (demands.map (·.pattern))
    unmetAll change
      ((unusedPatterns selections).flatMap fun pattern => demands.filter (·.pattern = pattern))

/-! ## Demands with a name -/

/-- What a search for a named block finds. -/
inductive Lookup where
  | found (b : Block)
  | broken (errors : List BlockError)
  | absent
  deriving DecidableEq, Repr

/-- Looks for the first block of a name.  Errors before it end the search. -/
def lookup (name : Text) : List Finding → Lookup
  | [] => .absent
  | .broken errors :: _ => .broken errors
  | .block b :: rest => if b.name = some name then .found b else lookup name rest

/-- Checks that the change touches the block of a name in a file. -/
def checkTarget (change : Change) (disk : FileTree) (d : Demand) (name target : Text) :
    Session (List Violation) := do
  let place ← Session.ofExcept (change.locate target)
  match disk.read place with
  | .error fault => pure [.unopenable target d.stated fault]
  | .ok text =>
    match lookup name (findings text) with
    | .broken errors => pure (errors.map (.malformed target))
    | .absent => pure [.noBlock name target d.stated]
    | .found b =>
      let touched ← Session.touches change target b.range
      pure (if touched then [] else [.untouched target d.stated])

/-- Checks several files for the block of a name. -/
def checkTargets (change : Change) (disk : FileTree) (d : Demand) (name : Text) :
    List Text → Session (List Violation)
  | [] => pure []
  | target :: targets => do
    let vs ← checkTarget change disk d name target
    let more ← checkTargets change disk d name targets
    pure (vs ++ more)

/-- The paths among selections. -/
def selectedPaths (selections : List Selection) : List Text :=
  selections.filterMap fun
    | .path path => some path
    | .unused _ => none

/-- Checks a demand with a name, in every changed file that its pattern selects. -/
def checkNamed (change : Change) (disk : FileTree) (d : Demand) (name : Text) :
    Session (List Violation) := do
  let selections ← Session.select change [d.pattern]
  let targets := selectedPaths selections
  if !targets.isEmpty then checkTargets change disk d name targets
  else if isExclusion d.pattern then pure []
  else do
    let v ← unmet change d
    pure [v]

/-- Checks the demands with a name, one by one. -/
def checkAllNamed (change : Change) (disk : FileTree) : List Demand → Session (List Violation)
  | [] => pure []
  | d :: ds =>
    match d.name with
    | none => checkAllNamed change disk ds
    | some name => do
      let vs ← checkNamed change disk d name
      let more ← checkAllNamed change disk ds
      pure (vs ++ more)

/-! ## Blocks and files -/

/-- Checks the obligations of a block, those without a name first. -/
def checkBlock (change : Change) (disk : FileTree) (file : Text) (b : Block) :
    Session (List Violation) := do
  let demands := b.obligations.map (Demand.ofObligation file)
  let vs ← checkPlain change (demands.filter (·.name.isNone))
  let more ← checkAllNamed change disk demands
  pure (vs ++ more)

/-- Checks findings of a file; `before` are the violations of those that came before. -/
def checkFindings (change : Change) (disk : FileTree) (file : Text) (before : List Violation) :
    List Finding → Session (List Violation)
  | [] => pure before
  | .broken errors :: _ => pure (errors.map (.malformed file))
  | .block b :: rest => do
    let touched ← Session.touches change file b.range
    if touched then do
      let vs ← checkBlock change disk file b
      checkFindings change disk file (before ++ vs) rest
    else checkFindings change disk file before rest

/-- The violations of a file. -/
def checkFile (change : Change) (disk : FileTree) (file : Text) : Session (List Violation) := do
  let place ← Session.ofExcept (change.locate file)
  match disk.read place with
  | .error fault => pure [.unreadable file fault]
  | .ok text => checkFindings change disk file [] (findings text)

end Check

end Lockstep
