import Lockstep.Change.Source
import Lockstep.Check.Violation
import Lockstep.Pattern

/-!
# Sessions

A session puts questions to the source of one change and remembers every answer,
failures included: the snapshots do not move, so no question is put twice.  What
can be seen of a session from outside is its log of events.

A session may be given an allowance, the number of violations that somebody is
waiting for.  When the last of them has been reported the session stops there.
-/

namespace Lockstep

/-- Something that can be seen of a session. -/
inductive Event where
  /-- A question was put to the source. -/
  | asked (question : Question)
  /-- The source gave a command. -/
  | commanded (command : Git.Command)
  /-- A line about the progress was written. -/
  | progress (line : String)
  /-- A violation was reported. -/
  | reported (violation : Violation)
  deriving DecidableEq, Repr

/-- The answers of a source so far. -/
structure Memo where
  changed : Option (Except Failure (List ChangedFile)) := none
  tree : Option (Except Failure (List Text)) := none
  patches : List (Text × Except Failure (Option FilePatch)) := []

/-- Why a session stops. -/
inductive Stop where
  /-- Something failed. -/
  | failed (why : Failure)
  /-- Nobody is waiting for more. -/
  | enough
  deriving DecidableEq, Repr

/-- The state of a session. -/
structure SessionState where
  memo : Memo := {}
  /-- How many violations somebody is still waiting for; no number means all. -/
  allowance : Option Nat := none

/-- A run that puts questions and reports violations. -/
abbrev Session := Run SessionState Event Stop

/-- A change that can be asked about. -/
structure Change where
  source : ChangeSource
  /-- The patterns of exempt files. -/
  exempt : PatternSet

/-- The change that a source knows, if the patterns of its exempt files can be read. -/
def Change.ofSource (source : ChangeSource) : Except Failure Change := do
  pure ⟨source, ← PatternSet.compile source.exemptPatterns⟩

namespace Session

/-! ## Answers -/

/-- Goes on with a value, or fails. -/
def ofExcept (x : Except Failure α) : Session α := Run.ofExcept .failed x

/-- Does a job, and goes on with its value or fails. -/
def embed (job : Git.Job α) : Session α := do
  let result := job ()
  Run.noteAll (result.log.map .commanded)
  ofExcept result.outcome

/-- Puts a question to the source: the answer, and what can be seen of it. -/
def ask (question : Question) (job : Git.Job α) : Session (Except Failure α) := do
  let result := job ()
  Run.note (.asked question)
  Run.noteAll (result.log.map .commanded)
  pure result.outcome

/-- Changes what is remembered. -/
def remember (f : Memo → Memo) : Session Unit := Run.modify fun s => { s with memo := f s.memo }

/-- The paths that the change touches, each once. -/
def changedFiles (change : Change) : Session (List ChangedFile) := do
  let state ← Run.get
  match state.memo.changed with
  | some answer => ofExcept answer
  | none => do
    let listed ← ask .changedFiles change.source.changedFiles
    let answer := listed.map (lastBy (·.path))
    remember fun memo => { memo with changed := some answer }
    ofExcept answer

/-- The files of the later snapshot. -/
def treeFiles (change : Change) : Session (List Text) := do
  let state ← Run.get
  match state.memo.tree with
  | some answer => ofExcept answer
  | none => do
    let answer ← ask .treeFiles change.source.treeFiles
    remember fun memo => { memo with tree := some answer }
    ofExcept answer

/-- The changed lines of a path. -/
def filePatch (change : Change) (path : Text) : Session (Option FilePatch) := do
  let state ← Run.get
  match state.memo.patches.lookup path with
  | some answer => ofExcept answer
  | none => do
    let answer ← ask (.filePatch path) (change.source.filePatch path)
    remember fun memo => { memo with patches := (path, answer) :: memo.patches }
    ofExcept answer

/-! ## Reports -/

/-- Writes a line about the progress, if somebody wants to see it. -/
def progress (verbose : Bool) (line : String) : Session Unit :=
  if verbose then Run.note (.progress line) else pure ()

/-- Reports a violation, and stops if nobody is waiting for more. -/
def report (v : Violation) : Session Unit := do
  Run.note (.reported v)
  let state ← Run.get
  match state.allowance with
  | none => pure ()
  | some n =>
    if n ≤ 1 then Run.stop .enough
    else Run.modify fun s => { s with allowance := some (n - 1) }

/-- Reports violations, one by one. -/
def reportAll : List Violation → Session Unit
  | [] => pure ()
  | v :: vs => do
    report v
    reportAll vs

/-! ## Running -/

/-- Runs a session from the start for somebody who waits for at most so many violations.  Where none
is waited for, nothing is run. -/
def runUpTo (limit : Option Nat) (session : Session Unit) :
    Run.Result SessionState Event Stop Unit :=
  match limit with
  | some 0 => ⟨.ok (), {}, []⟩
  | limit => session { allowance := limit }

end Session

end Lockstep
