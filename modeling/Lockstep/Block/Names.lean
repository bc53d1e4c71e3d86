import Lockstep.Block.Basic

/-!
# Names of blocks

A name refers to one block of a file, so a second block of the same name is an
error.  Blocks without a name do not take part.
-/

namespace Lockstep

/-- A block whose name an earlier block of the file has. -/
structure DuplicateName where
  /-- The name. -/
  name : Text
  /-- The line of the later block. -/
  line : Nat
  deriving DecidableEq, Repr

/-- The error as shown for the file at `path`. -/
def DuplicateName.message (path : Text) (d : DuplicateName) : String :=
  s!"Duplicate \"if-changed\" name {d.name.quote} at line {d.line} for {path.quote}."

/-- What comes of looking at the names of blocks. -/
structure NameReport where
  /-- The blocks whose name an earlier block has, in order. -/
  duplicates : List DuplicateName
  /-- How many of them were counted. -/
  count : Nat
  deriving DecidableEq, Repr

/-- Looks at the names of blocks that come behind others, whose names are `seen` and among which
`count` duplicates were counted. -/
def checkNamesAfter (seen : List Text) (count : Nat) : List Block → NameReport
  | [] => ⟨[], count⟩
  | b :: blocks =>
    match b.name with
    | none => checkNamesAfter seen count blocks
    | some name =>
      if seen.contains name then
        let rest := checkNamesAfter seen (count + 1) blocks
        { rest with duplicates := ⟨name, b.range.first⟩ :: rest.duplicates }
      else checkNamesAfter (name :: seen) count blocks

/-- Looks at the names of the blocks of a file. -/
def checkNames (blocks : List Block) : NameReport := checkNamesAfter [] 0 blocks

/-- The blocks whose name an earlier block has, in order. -/
def duplicateNames (blocks : List Block) : List DuplicateName := (checkNames blocks).duplicates

end Lockstep
