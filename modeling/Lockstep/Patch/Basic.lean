import Lockstep.Block.Basic
import Lockstep.Patch.LineNumber

/-!
# Patches

What a change does to files: the status of each path it touches, and for a path
the lines that were added and removed, hunk by hunk.
-/

namespace Lockstep

/-- How a change affects a file. -/
inductive ChangeStatus where
  | added
  | deleted
  | modified
  deriving DecidableEq, Repr

/-- A path that a change touches. -/
structure ChangedFile where
  path : Text
  status : ChangeStatus
  deriving DecidableEq, Repr

/-- One hunk of a patch. -/
structure Hunk where
  /-- The first line of the hunk in the old file. -/
  oldStart : LineNumber
  /-- How many lines of the old file it covers. -/
  oldLines : Nat
  /-- The first line of the hunk in the new file. -/
  newStart : LineNumber
  /-- How many lines of the new file it covers. -/
  newLines : Nat
  /-- The number in the new file of every added line, in order. -/
  added : List LineNumber
  /-- The number in the old file of every removed line, in order. -/
  removed : List LineNumber
  deriving DecidableEq, Repr

/-- The changed lines of one file. -/
structure FilePatch where
  path : Text
  status : ChangeStatus
  hunks : List Hunk
  deriving DecidableEq, Repr

/-! ## Lines of a hunk -/

/-- What a line of a hunk does. -/
inductive Edit where
  | add
  | remove
  | keep
  deriving DecidableEq, Repr

namespace Hunk

/-- A hunk that covers nothing yet. -/
def empty (oldStart newStart : LineNumber) : Hunk := ⟨oldStart, 0, newStart, 0, [], []⟩

/-- Walks the edits of a hunk from the given lines, adding to what it covers. -/
def walk (h : Hunk) (oldLine newLine : LineNumber) : List Edit → Hunk
  | [] => h
  | .add :: edits =>
    walk { h with added := h.added ++ [newLine], newLines := h.newLines + 1 }
      oldLine newLine.next edits
  | .remove :: edits =>
    walk { h with removed := h.removed ++ [oldLine], oldLines := h.oldLines + 1 }
      oldLine.next newLine edits
  | .keep :: edits =>
    walk { h with oldLines := h.oldLines + 1, newLines := h.newLines + 1 } oldLine.next newLine.next
      edits

/-- The hunk with these starts and edits. -/
def ofEdits (oldStart newStart : LineNumber) (edits : List Edit) : Hunk :=
  walk (empty oldStart newStart) oldStart newStart edits

/-! ## Touching a range -/

/-- Whether a line lies in a range. -/
def isIn (range : LineRange) (line : LineNumber) : Bool :=
  line.atLeast range.first && line.atMost range.last

/-- Whether a hunk adds or removes a line of a range. -/
def changes (range : LineRange) (h : Hunk) : Bool :=
  h.added.any (isIn range) || h.removed.any (isIn range)

/-- Whether a hunk ends before a range, in the old file and in the new one. -/
def endsBefore (range : LineRange) (h : Hunk) : Bool :=
  !(h.newStart.plus h.newLines).atLeast range.first &&
    !(h.oldStart.plus h.oldLines).atLeast range.first

end Hunk

/-- Whether hunks in ascending order touch a range.  The first hunk that starts behind the range
ends the search. -/
def hunksTouch (range : LineRange) : List Hunk → Bool
  | [] => false
  | h :: hunks =>
    if !h.newStart.atMost range.last then false
    else if h.endsBefore range then hunksTouch range hunks
    else h.changes range || hunksTouch range hunks

/-- Whether a patch adds or removes a line of a range.  Added lines count by their number in the new
file, removed ones by their number in the old file. -/
def FilePatch.touches (p : FilePatch) (range : LineRange) : Bool := hunksTouch range p.hunks

end Lockstep
