import Mathlib.Algebra.Group.Nat.Defs
import Lockstep.Text.Units
import Lockstep.Patch.Reader
import Lockstep.Proofs.Text

/-!
# Written diffs

What a diff says, and the text that says it.  A `FileText` is a file with its hunks
and with all that the text may add to them: the lines before the names, the headings
behind the headers of hunks, the content of the lines, and the notes about a missing
line feed.  `renderFiles` writes files one behind the other, and `FileText.patch` is
what is to be read from that.

The content of a line is any text without a line feed.  It may well look like a
header, and it may end in a carriage return.

A `DiffFile` is a file whose line numbers are held exactly, and `DiffFile.patch` says
what is meant by it with plain numbers.
-/

namespace Lockstep

/-- A text that fits on a line. -/
abbrev LineText : Type := { t : Text // '\n' ∉ t }

/-! ## Lines -/

/-- The sign that says what a line does. -/
def Edit.sign : Edit → Char
  | .add => '+'
  | .remove => '-'
  | .keep => ' '

/-- A line of a hunk. -/
structure DiffLine where
  edit : Edit
  content : LineText
  /-- Whether a note follows that the file ends without a line feed. -/
  unended : Bool

namespace DiffLine

/-- The note that a file ends without a line feed. -/
def note : Text := "\\ No newline at end of file".toList

/-- The line as written, and the note behind it. -/
def lines (l : DiffLine) : List Text :=
  (l.edit.sign :: l.content.1) :: if l.unended then [note] else []

end DiffLine

/-! ## Hunks -/

/-- How many lines of the old file some edits cover. -/
def oldCount (edits : List Edit) : Nat := edits.countP (· ≠ .add)

/-- How many lines of the new file some edits cover. -/
def newCount (edits : List Edit) : Nat := edits.countP (· ≠ .remove)

theorem oldCount_cons (e : Edit) (es : List Edit) :
    oldCount (e :: es) = oldCount es + if e = .add then 0 else 1 := by
  cases e <;> simp [oldCount]

theorem newCount_cons (e : Edit) (es : List Edit) :
    newCount (e :: es) = newCount es + if e = .remove then 0 else 1 := by
  cases e <;> simp [newCount]

/-- Every edit counts on one side at least. -/
theorem count_eq_zero_iff (es : List Edit) : (oldCount es = 0 ∧ newCount es = 0) ↔ es = [] := by
  cases es with
  | nil => simp [oldCount, newCount]
  | cons e es => cases e <;> simp [oldCount_cons, newCount_cons]

/-- The numbers in the new file of the lines that are added, from line `n` on. -/
def addedFrom (n : Nat) : List Edit → List Nat
  | [] => []
  | .add :: edits => n :: addedFrom (n + 1) edits
  | .remove :: edits => addedFrom n edits
  | .keep :: edits => addedFrom (n + 1) edits

/-- The numbers in the old file of the lines that are removed, from line `n` on. -/
def removedFrom (n : Nat) : List Edit → List Nat
  | [] => []
  | .add :: edits => removedFrom n edits
  | .remove :: edits => n :: removedFrom (n + 1) edits
  | .keep :: edits => removedFrom (n + 1) edits

/-- A hunk with at least one line, whose header has its numbers as they are usually written. -/
structure HunkText where
  oldStart : Nat
  newStart : Nat
  body : List DiffLine
  /-- What stands behind the header. -/
  heading : LineText
  body_ne : body ≠ []

namespace HunkText

/-- What the lines of the hunk do. -/
def edits (h : HunkText) : List Edit := h.body.map (·.edit)

/-- A number in decimal digits. -/
def digits (n : Nat) : Text := Nat.toDigits 10 n

/-- A count as written; there is no need to write 1. -/
def countText? (n : Nat) : Option Text := if n = 1 then none else some (digits n)

/-- A start and a count as written. -/
def spanText (start count : Nat) : Text :=
  digits start ++ ((countText? count).map (',' :: ·)).getD []

/-- The header of the hunk, without the heading. -/
def headerText (h : HunkText) : Text :=
  "@@ -".toList ++ (spanText h.oldStart (oldCount h.edits) ++
    (" +".toList ++ (spanText h.newStart (newCount h.edits) ++ " @@".toList)))

/-- The lines of the hunk. -/
def lines (h : HunkText) : List Text :=
  (h.headerText ++ h.heading.1) :: h.body.flatMap DiffLine.lines

/-- The hunk that is read from them. -/
def hunk (h : HunkText) : Hunk := .ofEdits (.ofNat h.oldStart) (.ofNat h.newStart) h.edits

/-- A hunk whose line numbers are held exactly. -/
structure Exact (h : HunkText) : Prop where
  old_le : h.oldStart + oldCount h.edits ≤ 2 ^ 53
  new_le : h.newStart + newCount h.edits ≤ 2 ^ 53

/-- The hunk that is meant, if its line numbers are held exactly. -/
def exactHunk (h : HunkText) : Hunk where
  oldStart := .finite h.oldStart
  oldLines := oldCount h.edits
  newStart := .finite h.newStart
  newLines := newCount h.edits
  added := (addedFrom h.newStart h.edits).map .finite
  removed := (removedFrom h.oldStart h.edits).map .finite

end HunkText

/-! ## Files -/

/-- A text without quotes and backslashes. -/
def Text.Unquoted (t : Text) : Prop := ∀ c ∈ t, Header.isQuote c = false ∧ c ≠ '\\'

instance (t : Text) : Decidable (Text.Unquoted t) :=
  List.decidableBAll (fun c => Header.isQuote c = false ∧ c ≠ '\\') t

/-- A path that stands in a diff as it is: without blanks, quotes and backslashes, not absolute, and
not with a slash as its second unit, where it would look like a side. -/
structure PlainPath where
  text : Text
  ne_nil : text ≠ []
  solid : Text.Solid text
  unquoted : Text.Unquoted text
  relative : text.head? ≠ some '/'
  unprefixed : (Text.units text)[1]? ≠ some '/'.toNat

/-- The name of a file on one side as written: the path behind the letter of the side, unless the
file is not there. -/
def PlainPath.written (p : PlainPath) (side : Char) (absent : Bool) : Text :=
  if absent then PathName.devNull else side :: '/' :: p.text

/-- The mode of a file as written. -/
abbrev ModeText : Type := { t : Text // Header.isDigits t = true }

/-- A hash as written. -/
abbrev HashText : Type := { t : Text // t ≠ [] ∧ t.all Char.isAlphanum = true }

/-- The hashes of a file on both sides, and maybe its mode. -/
structure IndexText where
  old : HashText
  new : HashText
  mode : Option ModeText

/-- The hashes as written. -/
def IndexText.line (i : IndexText) : Text :=
  "index ".toList ++ (i.old.1 ++ ("..".toList ++ (i.new.1 ++ (i.mode.map (' ' :: ·.1)).getD [])))

/-- A file of a diff as written. -/
structure FileText where
  path : PlainPath
  status : ChangeStatus
  hunks : List HunkText
  /-- What the first header line says about the file, if there is one. -/
  announced : Option LineText
  /-- The mode of a file that is new or gone, if it is given. -/
  mode : Option ModeText
  /-- The hashes, if they are given. -/
  index : Option IndexText
  hunks_ne : hunks ≠ []

namespace FileText

/-- The line about the mode; a file that stays has none. -/
def modeLine? (f : FileText) : Option Text :=
  match f.status with
  | .added => f.mode.map ("new file mode ".toList ++ ·.1)
  | .deleted => f.mode.map ("deleted file mode ".toList ++ ·.1)
  | .modified => none

/-- The name on the old side as written. -/
def oldText (f : FileText) : Text := f.path.written 'a' (f.status = .added)

/-- The name on the new side as written. -/
def newText (f : FileText) : Text := f.path.written 'b' (f.status = .deleted)

/-- The header lines of the file. -/
def header (f : FileText) : List Text :=
  (f.announced.map ("diff --git ".toList ++ ·.1)).toList ++ (f.modeLine?.toList ++
    ((f.index.map IndexText.line).toList ++
      ["--- ".toList ++ f.oldText, "+++ ".toList ++ f.newText]))

/-- The lines of the file. -/
def lines (f : FileText) : List Text := f.header ++ f.hunks.flatMap HunkText.lines

/-- The patch that is read from them. -/
def patch (f : FileText) : FilePatch where
  path := f.path.text
  status := f.status
  hunks := f.hunks.map HunkText.hunk

end FileText

/-- The text of some files, one behind the other. -/
def renderFiles (files : List FileText) : Text := Text.unlines (files.flatMap FileText.lines)

/-- A file of a diff whose line numbers are held exactly. -/
structure DiffFile extends FileText where
  hunks_exact : ∀ h ∈ hunks, h.Exact

/-- The patch that is meant. -/
def DiffFile.patch (f : DiffFile) : FilePatch where
  path := f.path.text
  status := f.status
  hunks := f.hunks.map HunkText.exactHunk

/-- The text of a diff. -/
def renderDiff (files : List DiffFile) : Text := renderFiles (files.map (·.toFileText))

/-! ## Any numbers -/

/-- A number as written. -/
abbrev NumberText : Type := { t : Text // Header.isDigits t = true }

/-- A start and maybe a count as written. -/
structure SpanText where
  start : NumberText
  count : Option NumberText

namespace SpanText

/-- The start, and a comma and the count behind it. -/
def text (s : SpanText) : Text := s.start.1 ++ ((s.count.map (',' :: ·.1)).getD [])

/-- How many lines are meant. -/
def lines (s : SpanText) : Nat := Header.count (s.count.map (·.1))

/-- The header of a hunk that covers this of the old and the new file, without the heading. -/
def headerText (old new : SpanText) : Text :=
  "@@ -".toList ++ (old.text ++ (" +".toList ++ (new.text ++ " @@".toList)))

end SpanText

/-- A hunk as written, with at least one line and with as many lines as its header says. -/
structure WrittenHunk where
  old : SpanText
  new : SpanText
  /-- What stands behind the header. -/
  heading : LineText
  body : List DiffLine
  body_ne : body ≠ []
  old_eq : oldCount (body.map (·.edit)) = old.lines
  new_eq : newCount (body.map (·.edit)) = new.lines

namespace WrittenHunk

/-- What the lines of the hunk do. -/
def edits (h : WrittenHunk) : List Edit := h.body.map (·.edit)

/-- The lines of the hunk. -/
def lines (h : WrittenHunk) : List Text :=
  (SpanText.headerText h.old h.new ++ h.heading.1) :: h.body.flatMap DiffLine.lines

end WrittenHunk

end Lockstep
