import Lockstep.Text.Quoted

/-!
# Blocks

A block is a region of a file that opens at an `if-changed` marker and closes at
a `then-change` marker.  The closing marker lists what has to change whenever
the block does: its obligations.  Reading a file gives findings, each a block or
the errors that stopped the reading.
-/

namespace Lockstep

/-- An inclusive range of line numbers; the first line of a file has the number 1. -/
structure LineRange where
  /-- The first line of the range. -/
  first : Nat
  /-- The last line of the range. -/
  last : Nat
  deriving DecidableEq, Repr

/-- What has to change together with a block. -/
structure Obligation where
  /-- A pattern, relative to the directory of the file that states it.  The empty pattern means
  that file itself. -/
  pattern : Text
  /-- The name of a block in the matched file, if only that block has to change. -/
  name : Option Text
  /-- The line of the `then-change` marker that states the obligation. -/
  line : Nat
  deriving DecidableEq, Repr

/-- A region between two markers. -/
structure Block where
  /-- The name given to the block, if any. -/
  name : Option Text
  /-- From the line of the opening marker to the line of the closing one. -/
  range : LineRange
  /-- What the closing marker lists, in its order. -/
  obligations : List Obligation
  deriving DecidableEq, Repr

/-- What can be wrong with the markers of a file. -/
inductive BlockError where
  /-- The name of an opening marker is not closed. -/
  | unclosedName (line : Nat)
  /-- A closing marker has no list. -/
  | noList (line : Nat)
  /-- The list of a closing marker does not end. -/
  | unclosedList (line : Nat)
  /-- An entry of a list is empty. -/
  | emptyEntry (entryLine line : Nat)
  /-- A closing marker closes nothing. -/
  | noOpening (line : Nat)
  /-- An opening marker is never closed. -/
  | noClosing (line : Nat)
  deriving DecidableEq, Repr

/-- The error as shown for the file at `path`. -/
def BlockError.message (path : Text) : BlockError → String
  | .unclosedName line =>
    s!"Could not find ')' for \"if-changed\" at line {line} for {path.quote}."
  | .noList line =>
    s!"Could not find '(' for \"then-change\" at line {line} for {path.quote}."
  | .unclosedList line =>
    s!"Could not find ')' for \"then-change\" at line {line} for {path.quote}."
  | .emptyEntry entry line =>
    s!"Unexpected empty path at line {entry} for \"then-change\" at line {line} for {path.quote}."
  | .noOpening line =>
    s!"Missing \"if-changed\" for \"then-change\" at line {line} for {path.quote}."
  | .noClosing line =>
    s!"Missing \"then-change\" for \"if-changed\" at line {line} for {path.quote}."

/-- One result of reading a file: a complete block, or the errors that stopped the reading. -/
inductive Finding where
  | block (b : Block)
  | broken (errors : List BlockError)
  deriving DecidableEq, Repr

end Lockstep
