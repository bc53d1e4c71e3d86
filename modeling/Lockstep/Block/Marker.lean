import Lockstep.Text.Blank
import Lockstep.Block.Basic

/-!
# Markers

How a single line shows the beginning of a block.  An opening marker is the
first thing in a comment, so the characters that open comments in various
languages are passed over before it.  A closing marker may stand anywhere
behind that.
-/

namespace Lockstep

namespace Marker

/-- The word that opens a block. -/
def opening : Text := "if-changed".toList

/-- The word that closes a block. -/
def closing : Text := "then-change".toList

/-- The characters that comment leaders are made of. -/
def leaders : Text := ['/', '#', '-', '\'', ';', 'R', 'E', 'M', '!', '*', '<']

/-- The line behind its indentation and its comment leader. -/
def dropLeader (line : Text) : Text := (line.trimStart).dropWhile (leaders.contains ·)

/-- What the start of a line says about opening a block. -/
inductive Opening where
  /-- The line opens no block. -/
  | absent
  /-- The line opens a block, maybe a named one. -/
  | present (name : Option Text)
  /-- The line opens a block and the name is not closed. -/
  | unclosed
  deriving DecidableEq, Repr

/-- Reads the start of a line: what it opens, and the rest of the line. -/
def readOpening (line : Text) : Opening × Text :=
  let body := (dropLeader line).trimStart
  match Text.after? opening body with
  | none => (.absent, body)
  | some afterWord =>
    match afterWord.trimStart with
    | '(' :: inside =>
      match Text.cutAt? ')' inside with
      | some (name, rest) => (.present (some name.trim), rest)
      | none => (.unclosed, inside)
    | rest => (.present none, rest)

/-- What follows the closing marker in the rest of a line, if there is one. -/
def afterClosing? (rest : Text) : Option Text := (Text.cutAtWord? closing rest).map (·.2)

end Marker

end Lockstep
