import Lockstep.Text.Lines
import Lockstep.Block.Entries

/-!
# Scanning a file for blocks

A scan stands between two lines of a file.  It knows the lines that are left and
the blocks that are open, the innermost first.  `Scan.next?` moves to the next
finding; errors end the scan, and so does the end of the file, where blocks that
are still open are the last finding.
-/

namespace Lockstep

/-- A block whose closing marker has not been met. -/
structure OpenBlock where
  /-- The name of the block, if any. -/
  name : Option Text
  /-- The line of the opening marker. -/
  line : Nat
  deriving DecidableEq, Repr

/-- A place in a file, between two findings. -/
structure Scan where
  /-- How many lines have been read. -/
  here : Nat
  /-- The lines that are left. -/
  lines : List Text
  /-- The open blocks, the innermost first. -/
  opened : List OpenBlock
  deriving DecidableEq, Repr

namespace Scan

/-- The scan of a text, before its first line. -/
def start (text : Text) : Scan := ⟨0, text.fileLines, []⟩

/-- A scan behind which there is nothing. -/
def finished : Scan := ⟨0, [], []⟩

/-- The blocks that are open behind an opening on line `here`. -/
def openOn (here : Nat) (opening : Marker.Opening) (opened : List OpenBlock) : List OpenBlock :=
  match opening with
  | .present name => ⟨name, here⟩ :: opened
  | _ => opened

/-- The finding at a closing marker on line `marker`, given the rest of that line. -/
def close (marker : Nat) (rest : Text) (lines : List Text) (opened : List OpenBlock) :
    Finding × Scan :=
  match Entries.read marker rest lines, opened with
  | .error e, [] => (.broken [.noOpening marker, e], finished)
  | .error e, _ :: _ => (.broken [e], finished)
  | .ok _, [] => (.broken [.noOpening marker], finished)
  | .ok (obligations, here, rest), b :: outer =>
    (.block { name := b.name, range := ⟨b.line, marker⟩, obligations }, ⟨here, rest, outer⟩)

/-- Reads lines up to the next finding. -/
def advance (here : Nat) (opened : List OpenBlock) : List Text → Option (Finding × Scan)
  | [] =>
    match opened with
    | [] => none
    | _ :: _ => some (.broken (opened.reverse.map fun b => .noClosing b.line), finished)
  | line :: lines =>
    let (opening, rest) := Marker.readOpening line
    if opening = .unclosed then some (.broken [.unclosedName (here + 1)], finished)
    else
      let opened := openOn (here + 1) opening opened
      match Marker.afterClosing? rest with
      | some rest => some (close (here + 1) rest lines opened)
      | none => advance (here + 1) opened lines

/-- The next finding, and the place behind it. -/
def next? (s : Scan) : Option (Finding × Scan) := advance s.here s.opened s.lines

/-- Up to `n` findings, and the place behind them. -/
def take : Nat → Scan → List Finding × Scan
  | 0, s => ([], s)
  | n + 1, s =>
    match s.next? with
    | none => ([], finished)
    | some (finding, s) =>
      let (findings, s) := take n s
      (finding :: findings, s)

/-- All findings that are left.  A line gives one at the most, and the end of the file one more. -/
def findings (s : Scan) : List Finding := (s.take (s.lines.length + 1)).1

end Scan

/-- The findings of a text. -/
def findings (text : Text) : List Finding := (Scan.start text).findings

end Lockstep
