import Lockstep.Block.Scan

/-!
# Reading findings step by step

A cursor hands out the findings of one text in several goes.  It only moves
forward: a later go continues where the earlier one stopped.  A loop that is
left early closes the cursor, and a closed cursor has nothing more to hand out.
-/

namespace Lockstep

/-- A place among the findings of a text, or the end of them. -/
structure Cursor where
  /-- The scan behind the findings handed out so far. -/
  scan : Scan
  deriving DecidableEq, Repr

namespace Cursor

/-- Before the first finding of a text. -/
def start (text : Text) : Cursor := ⟨Scan.start text⟩

/-- Behind the last finding. -/
def closed : Cursor := ⟨Scan.finished⟩

/-- One way of asking for findings. -/
inductive Step where
  /-- The next finding only. -/
  | next
  /-- All that are left. -/
  | drain
  /-- A loop that is left as soon as it has seen `n` findings. -/
  | loop (n : Nat)
  deriving DecidableEq, Repr

/-- What a step hands out, and the cursor behind it. -/
def step (c : Cursor) : Step → List Finding × Cursor
  | .next =>
    match c.scan.next? with
    | none => ([], closed)
    | some (finding, scan) => ([finding], ⟨scan⟩)
  | .drain => (c.scan.findings, closed)
  | .loop n => ((c.scan.take n).1, closed)

/-- What each of several steps hands out. -/
def run (c : Cursor) : List Step → List (List Finding)
  | [] => []
  | s :: steps => (c.step s).1 :: run (c.step s).2 steps

end Cursor

end Lockstep
