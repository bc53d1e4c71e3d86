import Lockstep.Text.Lines
import Lockstep.Patch.Basic
import Lockstep.Patch.Header
import Lockstep.Patch.PathName

/-!
# Reading a diff

A diff is read in two passes.  The first follows the counts in the headers of
hunks, so that it knows which lines are content, and reduces those to the sign
that says what they do: a removed line such as `-- comment`, shown as
`--- comment`, is then never taken for a header.  The second collects the files
and their hunks.
-/

namespace Lockstep

/-! ## Outlines -/

/-- The outline of a diff: `old` and `new` lines of the hunk at hand are still to come.  Content is
reduced to its sign; lines that start with a backslash and the first header line of a file are left
out. -/
def outlineFrom (old new : Int) : List Text → List Text
  | [] => []
  | line :: rest =>
    if 0 < old ∨ 0 < new then
      match line.head? with
      | some '\\' => outlineFrom old new rest
      | some '-' => ['-'] :: outlineFrom (old - 1) new rest
      | some '+' => ['+'] :: outlineFrom old (new - 1) rest
      | _ => [' '] :: outlineFrom (old - 1) (new - 1) rest
    else if (Text.after? "diff ".toList line).isSome ∨ line.head? = some '\\' then
      outlineFrom old new rest
    else
      match Header.strictHunk? line with
      | some h => line :: outlineFrom (Header.count h.oldLines) (Header.count h.newLines) rest
      | none => line :: outlineFrom old new rest

/-- The outline of a diff. -/
def outline (diff : Text) : List Text := outlineFrom 0 0 diff.lines

/-! ## Collecting files and hunks -/

/-- A hunk as far as it has been read. -/
structure HunkDraft where
  oldStart : LineNumber
  newStart : LineNumber
  /-- The edits so far, the last one first. -/
  edits : List Edit
  deriving DecidableEq, Repr

/-- A file as far as it has been read. -/
structure FileDraft where
  /-- The name on the old side. -/
  old : Option Text := none
  /-- The name on the new side. -/
  new : Option Text := none
  /-- The hunks so far, the last one first. -/
  hunks : List HunkDraft := []
  deriving DecidableEq, Repr

/-- How far a diff has been read. -/
structure DiffDraft where
  /-- The files so far, the last one first. -/
  files : List FileDraft := []
  /-- How many lines of the old and the new file the hunk at hand still has to cover; outside a
  hunk there is no such count. -/
  expected : Option (Int × Int) := none
  deriving DecidableEq, Repr

namespace DiffDraft

/-- Changes the file at hand. -/
def onFile (f : FileDraft → FileDraft) (d : DiffDraft) : DiffDraft :=
  match d.files with
  | [] => d
  | file :: files => { d with files := f file :: files }

/-- Makes sure that there is a file at hand that has no hunks. -/
def restart (d : DiffDraft) : DiffDraft :=
  match d.files with
  | [] => { d with files := [{}] }
  | file :: files => if file.hunks.isEmpty then d else { d with files := {} :: file :: files }

/-- Adds an edit to the hunk at hand. -/
def edit (e : Edit) (d : DiffDraft) : DiffDraft :=
  d.onFile fun file =>
    match file.hunks with
    | [] => file
    | h :: hunks => { file with hunks := { h with edits := e :: h.edits } :: hunks }

/-- Reads a line between hunks. -/
def header (line : Text) (d : DiffDraft) : DiffDraft :=
  match Header.read? line with
  | none => d
  | some (.file old new) => { d with files := { old, new } :: d.files }
  | some .created => d.restart.onFile fun file => { file with old := some PathName.devNull }
  | some .deleted => d.restart.onFile fun file => { file with new := some PathName.devNull }
  | some .about => d.restart
  | some (.old name) => d.restart.onFile fun file => { file with old := some name }
  | some (.new name) => d.restart.onFile fun file => { file with new := some name }
  | some (.hunk h) =>
    let d :=
      if d.files.isEmpty then
        let (old, new) := Header.bothNames line
        { d with files := [{ old, new }] }
      else d
    let hunk : HunkDraft := ⟨.ofDigits h.oldStart, .ofDigits h.newStart, []⟩
    { d.onFile fun file => { file with hunks := hunk :: file.hunks } with
      expected := some (Header.count h.oldLines, Header.count h.newLines) }

/-- Reads a line of a hunk that `old` and `new` lines are still expected of. -/
def content (line : Text) (old new : Int) (d : DiffDraft) : DiffDraft :=
  let (d, old, new) :=
    match line with
    | '-' :: _ => (d.edit .remove, old - 1, new)
    | '+' :: _ => (d.edit .add, old, new - 1)
    | c :: _ => if Text.isBlank c then (d.edit .keep, old - 1, new - 1) else (d, old, new)
    | [] => (d, old, new)
  { d with expected := if old = 0 ∧ new = 0 then none else some (old, new) }

/-- Reads a line. -/
def line (d : DiffDraft) (line : Text) : DiffDraft :=
  match d.expected with
  | none => d.header line
  | some (old, new) => d.content line old new

end DiffDraft

/-- A hunk that has been read to its end. -/
def HunkDraft.finish (h : HunkDraft) : Hunk := Hunk.ofEdits h.oldStart h.newStart h.edits.reverse

/-- The path that a name writes; an empty name writes none. -/
def pathOf? (name : Option Text) : Option Text :=
  match name with
  | none | some [] => none
  | some name => some (PathName.decode name)

/-- The patch of a file that has been read to its end, if the file has a usable path. -/
def FileDraft.finish? (f : FileDraft) : Option FilePatch :=
  let old := pathOf? f.old
  let new := pathOf? f.new
  let (status, path) :=
    if old = some PathName.devNull then (ChangeStatus.added, new)
    else if new = some PathName.devNull then (.deleted, old)
    else (.modified, new)
  match path with
  | none | some [] => none
  | some path =>
    if path = PathName.devNull then none
    else some { path, status, hunks := f.hunks.reverse.map HunkDraft.finish }

/-- Puts an item in the place of the one with the same key, or behind the others. -/
def putBy (key : α → Text) (item : α) : List α → List α
  | [] => [item]
  | other :: items => if key other = key item then item :: items else other :: putBy key item items

/-- The items with every key once: in the place of the first item with the key, the last one. -/
def lastBy (key : α → Text) (items : List α) : List α :=
  items.foldl (fun done item => putBy key item done) []

/-- The patches in a diff, one a path.  A path that comes again keeps its place and takes the later
patch. -/
def readPatches (diff : Text) : List FilePatch :=
  let draft := (outline diff).foldl DiffDraft.line {}
  lastBy (·.path) (draft.files.reverse.filterMap FileDraft.finish?)

end Lockstep
