import Lockstep.Block.Scan
import Lockstep.Proofs.Text

/-!
# Written blocks

The layout of a file with blocks in it, and the text of such a file.  A `Layout` is
made of lines that say nothing and of blocks, and what is inside a block is a layout
again, so that blocks nest to any depth.  `Layout.render` writes the text, a marker a
line, and `Layout.blocks` gives the blocks that are meant, in the order in which they
end.
-/

namespace Lockstep

/-! ## Parts of a line -/

/-- What stands before a marker on its line: blanks, the marks that open a comment, and blanks. -/
structure Leader where
  indent : Text
  marks : Text
  gap : Text
  indent_blank : ∀ c ∈ indent, Text.isBlank c = true
  marks_mem : ∀ c ∈ marks, Marker.leaders.contains c = true
  gap_blank : ∀ c ∈ gap, Text.isBlank c = true
  indent_line : '\n' ∉ indent
  gap_line : '\n' ∉ gap

/-- The leader as written. -/
def Leader.text (l : Leader) : Text := l.indent ++ (l.marks ++ l.gap)

/-- A line without markers. -/
structure Filler where
  text : Text
  text_line : '\n' ∉ text
  no_opening : Text.includes Marker.opening text = false
  no_closing : Text.includes Marker.closing text = false

/-- A name that can be given to a block. -/
structure BlockName where
  text : Text
  trimmed : text.trim = text
  no_close : ')' ∉ text
  text_line : '\n' ∉ text

/-- The line that opens a block. -/
def openingLine (l : Leader) (name : Option BlockName) : Text :=
  l.text ++ (Marker.opening ++ (name.map fun n => '(' :: (n.text ++ [')'])).getD [])

/-! ## Lists of closing markers -/

/-- What a closing marker can list. -/
inductive Target where
  /-- Files that match a pattern. -/
  | file (pattern : Text) (ne_nil : pattern ≠ []) (no_colon : ':' ∉ pattern) (line : '\n' ∉ pattern)
  /-- The block of a name in the files that match a pattern. -/
  | block (pattern name : Text) (trimmed : pattern.trim = pattern) (no_colon : ':' ∉ pattern)
      (line : '\n' ∉ pattern) (name_trimmed : name.trim = name) (name_line : '\n' ∉ name)

namespace Target

/-- The obligation that is meant, on the line of the closing marker. -/
def obligation (line : Nat) : Target → Obligation
  | file pattern .. => { pattern, name := none, line }
  | block pattern name .. => { pattern, name := some name, line }

/-- The entry of the list, before anything in it is protected. -/
def entry : Target → Text
  | file pattern .. => pattern
  | block pattern name .. => pattern ++ ':' :: name

/-- Whether a character in an entry needs a backslash before it. -/
def isSpecial (c : Char) : Bool := c = '\\' || c = ',' || c = ')' || Text.isBlank c

/-- A character as written in an entry. -/
def escapeChar (c : Char) : Text := if isSpecial c then ['\\', c] else [c]

/-- An entry as written. -/
def escape (t : Text) : Text := t.flatMap escapeChar

/-- The list as written behind its opening parenthesis. -/
def listText : List Target → Text
  | [] => [')']
  | [t] => escape t.entry ++ [')']
  | t :: u :: targets => escape t.entry ++ ',' :: listText (u :: targets)

end Target

/-- A closing marker, and a list as written behind its opening parenthesis. -/
def closingText (l : Leader) (list : Text) : Text := l.text ++ (Marker.closing ++ '(' :: list)

/-- The line that closes a block. -/
def closingLine (l : Leader) (targets : List Target) : Text :=
  closingText l (Target.listText targets)

/-! ## Layouts -/

/-- The layout of a file, or of the inside of a block. -/
inductive Layout where
  /-- Nothing more. -/
  | done
  /-- A line without markers, and then the rest. -/
  | filler (line : Filler) (rest : Layout)
  /-- A block, and then the rest. -/
  | block (opener : Leader) (name : Option BlockName) (inside : Layout) (closer : Leader)
      (targets : List Target) (rest : Layout)

namespace Layout

/-- The lines of a layout. -/
def lines : Layout → List Text
  | done => []
  | filler line rest => line.text :: rest.lines
  | block opener name inside closer targets rest =>
    openingLine opener name :: (inside.lines ++ closingLine closer targets :: rest.lines)

/-- The blocks of a layout whose first line has the number `n`, in the order in which they end. -/
def blocks (n : Nat) : Layout → List Block
  | done => []
  | filler _ rest => rest.blocks (n + 1)
  | block _ name inside _ targets rest =>
    let last := n + 1 + inside.lines.length
    inside.blocks (n + 1) ++
      { name := name.map (·.text), range := ⟨n, last⟩,
        obligations := targets.map (·.obligation last) } ::
        rest.blocks (last + 1)

/-- The text of a file with this layout. -/
def render (l : Layout) : Text := Text.unlines l.lines

end Layout

end Lockstep
