import Lockstep.Proofs.Selection
import Lockstep.Proofs.Diff.RoundTrip

/-!
# Under which paths patches are found

In the header of a file the path stands behind the letter of its side, and the letter
is dropped when the line is read.  What is left is decoded, and there a prefix of one
unit and a slash is dropped once more.  A path whose first directory has a name of one
unit loses it so.

* `DiffPath.decode_text`: what becomes of a path.
* `readPatches_renderSingle`: the patches of files with one hunk each.  Files that have
  become the same path are one patch, that of the last of them.
* `readPatches_keys_iff`: the paths come back, all of them and in order, exactly if
  none has such a first directory.
* `keys_merged`: two files that are one afterwards.
-/

namespace Lockstep

/-! ## Paths -/

/-- A name on a path that stands in a diff as it is. -/
structure DiffName where
  text : Text
  ne_nil : text ≠ []
  no_slash : '/' ∉ text
  solid : Text.Solid text
  unquoted : Text.Unquoted text

/-- A relative path. -/
structure DiffPath where
  first : DiffName
  /-- The names behind the first one. -/
  rest : List DiffName

namespace DiffPath

/-- The path as written, with a slash between two names. -/
def text (p : DiffPath) : Text := p.first.text ++ p.rest.flatMap ('/' :: ·.text)

/-- The path lies in a directory whose name is a single unit. -/
def Prefixed (p : DiffPath) : Prop := p.rest ≠ [] ∧ p.first.text.unitLength = 1

/-- The path without such a directory. -/
def read (p : DiffPath) : DiffPath :=
  match p.rest with
  | [] => p
  | next :: rest => if p.first.text.unitLength = 1 then ⟨next, rest⟩ else p

theorem text_cons (first next : DiffName) (rest : List DiffName) :
    text ⟨first, next :: rest⟩ = first.text ++ '/' :: text ⟨next, rest⟩ := by
  simp [text]

theorem forall_mem_text {P : Char → Prop} (hslash : P '/')
    (hname : ∀ n : DiffName, ∀ c ∈ n.text, P c) (p : DiffPath) : ∀ c ∈ p.text, P c := by
  intro c hc
  rcases List.mem_append.1 hc with hc | hc
  · exact hname _ c hc
  · obtain ⟨n, -, hc⟩ := List.mem_flatMap.1 hc
    rcases List.mem_cons.1 hc with rfl | hc
    · exact hslash
    · exact hname n c hc

theorem solid_text (p : DiffPath) : Text.Solid p.text :=
  p.forall_mem_text (by decide) fun n => n.solid

theorem unquoted_text (p : DiffPath) : Text.Unquoted p.text :=
  p.forall_mem_text (by decide) fun n => n.unquoted

theorem text_ne_nil (p : DiffPath) : p.text ≠ [] := by
  simp [text, p.first.ne_nil]

theorem text_ne_devNull (p : DiffPath) : p.text ≠ PathName.devNull := by
  obtain ⟨c, t, htext⟩ := List.exists_cons_of_ne_nil p.first.ne_nil
  intro h
  have hhead : p.text.head? = some '/' := h ▸ rfl
  rw [text, htext, List.cons_append, List.head?_cons, Option.some.injEq] at hhead
  exact p.first.no_slash (htext ▸ hhead ▸ List.mem_cons_self)

theorem read_of_not_prefixed {p : DiffPath} (h : ¬ p.Prefixed) : p.read = p := by
  obtain ⟨first, rest⟩ := p
  cases rest with
  | nil => rfl
  | cons next rest => exact if_neg fun hunit => h ⟨List.cons_ne_nil _ _, hunit⟩

/-- A path that loses a directory is another path. -/
theorem read_text_ne {p : DiffPath} (h : p.Prefixed) : p.read.text ≠ p.text := by
  obtain ⟨first, rest⟩ := p
  cases rest with
  | nil => exact absurd rfl h.1
  | cons next rest =>
    have hread : read ⟨first, next :: rest⟩ = ⟨next, rest⟩ := if_pos h.2
    intro heq
    have hlength := congrArg List.length heq
    rw [hread, text_cons, List.length_append, List.length_cons] at hlength
    omega

/-- Decoding drops a first directory of a single unit. -/
theorem dropPrefix_text (p : DiffPath) : PathName.dropPrefix p.text = p.read.text := by
  obtain ⟨⟨name, ne_nil, no_slash, solid, unquoted⟩, rest⟩ := p
  cases name with
  | nil => exact absurd rfl ne_nil
  | cons c name =>
    cases name with
    | nil =>
      cases rest with
      | nil => rfl
      | cons next rest =>
        by_cases hunit : c.toNat < 0x10000
        · simp [text_cons, PathName.dropPrefix, read, Text.unitLength, Text.isSingleUnit, hunit]
        · simp [text_cons, PathName.dropPrefix, read, Text.unitLength, Text.isSingleUnit, hunit]
    | cons d name =>
      have hd : d ≠ '/' := by
        rintro rfl
        exact no_slash (by simp)
      have hlong : Text.unitLength (c :: d :: name) ≠ 1 := by
        simp only [Text.unitLength]
        split <;> split <;> omega
      rw [read_of_not_prefixed fun h => hlong h.2]
      simp [text, PathName.dropPrefix, hd]

theorem decode_text (p : DiffPath) : PathName.decode p.text = p.read.text := by
  rw [PathName.decode_of_solid p.solid_text p.unquoted_text p.text_ne_devNull, dropPrefix_text]

theorem pathOf?_text (p : DiffPath) : pathOf? (some p.text) = some p.read.text := by
  have hdecode := p.decode_text
  cases htext : p.text with
  | nil => exact absurd htext p.text_ne_nil
  | cons c t => exact congrArg some (htext ▸ hdecode)

end DiffPath

/-! ## Files with one hunk -/

/-- The hunk that is read. -/
def WrittenHunk.hunk (h : WrittenHunk) : Hunk :=
  .ofEdits (.ofDigits h.old.start.1) (.ofDigits h.new.start.1) h.edits

/-- A modified file with one hunk. -/
structure SingleHunk where
  path : DiffPath
  hunk : WrittenHunk

namespace SingleHunk

/-- The name on the old side as written. -/
def oldText (f : SingleHunk) : Text := 'a' :: '/' :: f.path.text

/-- The name on the new side as written. -/
def newText (f : SingleHunk) : Text := 'b' :: '/' :: f.path.text

/-- The lines of the file. -/
def lines (f : SingleHunk) : List Text :=
  ["--- ".toList ++ f.oldText, "+++ ".toList ++ f.newText] ++ f.hunk.lines

/-- The file as far as it is read when its last line has been read. -/
def draft (f : SingleHunk) : FileDraft := ⟨some f.path.text, some f.path.text, [f.hunk.draft]⟩

/-- The patch that is read. -/
def patch (f : SingleHunk) : FilePatch := ⟨f.path.read.text, .modified, [f.hunk.hunk]⟩

variable (f : SingleHunk)

theorem read?_oldText : Header.read? ("--- ".toList ++ f.oldText) = some (.old f.path.text) := by
  have hname : Header.sideName ("---".toList ++ ' ' :: 'a' :: '/' :: f.path.text) = f.path.text :=
    Header.sideName_side (by simp) (.inl rfl) f.path.solid_text f.path.unquoted_text
  rw [← hname]
  rfl

theorem read?_newText : Header.read? ("+++ ".toList ++ f.newText) = some (.new f.path.text) := by
  have hname : Header.sideName ("+++".toList ++ ' ' :: 'b' :: '/' :: f.path.text) = f.path.text :=
    Header.sideName_side (by simp) (.inr rfl) f.path.solid_text f.path.unquoted_text
  rw [← hname]
  rfl

theorem spaced_oldText : Text.Spaced ("--- ".toList ++ f.oldText) :=
  .append (a := "--- a/".toList) (by decide) f.path.solid_text.spaced

theorem spaced_newText : Text.Spaced ("+++ ".toList ++ f.newText) :=
  .append (a := "+++ b/".toList) (by decide) f.path.solid_text.spaced

theorem readsAs : ReadsAs f.lines f.draft where
  feed_not_mem := by
    intro l hl
    rcases List.mem_append.1 hl with hl | hl
    · rcases List.mem_pair.1 hl with rfl | rfl
      · exact f.spaced_oldText.not_mem (by decide) (by decide)
      · exact f.spaced_newText.not_mem (by decide) (by decide)
    · exact WrittenHunk.feed_not_mem hl
  hunks_ne := List.cons_ne_nil _ _
  readLines_eq := by
    intro files rest h
    rw [lines, List.map_append, List.append_assoc, DiffDraft.readLines_names _ f.read?_oldText
      f.read?_newText f.spaced_oldText f.spaced_newText (.unnamed h), DiffDraft.readLines_hunk]
    rfl

theorem finish?_draft : f.draft.finish? = some f.patch := by
  have hpath := f.path.pathOf?_text
  have hhunk : f.hunk.draft.finish = f.hunk.hunk := by
    rw [HunkDraft.finish, WrittenHunk.draft, List.reverse_reverse, WrittenHunk.hunk]
  obtain ⟨c, t, htext⟩ := List.exists_cons_of_ne_nil f.path.read.text_ne_nil
  have hname := f.path.read.text_ne_devNull
  unfold FileDraft.finish? draft patch
  rw [htext] at hpath hname ⊢
  simp [hpath, hname, hhunk]

end SingleHunk

/-- The text of some files, one behind the other. -/
def renderSingle (files : List SingleHunk) : Text := Text.unlines (files.flatMap SingleHunk.lines)

/-- All files are read, and those that have become the same path are one. -/
theorem readPatches_renderSingle (files : List SingleHunk) :
    readPatches (renderSingle files) = lastBy (·.path) (files.map SingleHunk.patch) :=
  readPatches_unlines SingleHunk.readsAs SingleHunk.finish?_draft files

/-- Distinct paths all come back, in order, exactly if none of them lies in a directory whose name
is a single unit. -/
theorem readPatches_keys_iff {files : List SingleHunk} (h : (files.map (·.path.text)).Nodup) :
    (readPatches (renderSingle files)).map (·.path) = files.map (·.path.text) ↔
      ∀ f ∈ files, ¬ f.path.Prefixed := by
  have hkeys : (files.map SingleHunk.patch).map (·.path) = files.map (·.path.read.text) := by
    rw [List.map_map]
    rfl
  rw [readPatches_renderSingle]
  constructor
  · intro hpaths f hf hprefixed
    -- no path may be lost, so that all are as they were read
    have hsublist : ((lastBy (·.path) (files.map SingleHunk.patch)).map (·.path)).Sublist
        ((files.map SingleHunk.patch).map (·.path)) := lastBy_keys_sublist _
    rw [hpaths, hkeys] at hsublist
    have hsame := hsublist.eq_of_length (by rw [List.length_map, List.length_map])
    exact DiffPath.read_text_ne hprefixed (List.map_inj_left.1 hsame f hf).symm
  · intro hplain
    have hread : files.map (·.path.read.text) = files.map (·.path.text) := by
      refine List.map_congr_left ?_
      intro f hf
      rw [DiffPath.read_of_not_prefixed (hplain f hf)]
    rw [lastBy_eq_self (by rw [hkeys, hread]; exact h), hkeys, hread]

/-- The line with a number is replaced. -/
def replacedLine (number : NumberText) : WrittenHunk where
  old := ⟨number, none⟩
  new := ⟨number, none⟩
  heading := ⟨[], Text.feed_not_mem_nil⟩
  body := [⟨.remove, ⟨"gone".toList, by decide⟩, false⟩, ⟨.add, ⟨"come".toList, by decide⟩, false⟩]
  body_ne := List.cons_ne_nil _ _
  old_eq := rfl
  new_eq := rfl

/-- A file of one letter, one in a directory with a name of one character that is two units, and one
in a directory of one letter further down. -/
def keptFiles : List SingleHunk :=
  [ ⟨⟨⟨"c".toList, by decide, by decide, by decide, by decide⟩, []⟩,
      replacedLine ⟨"1".toList, by decide⟩⟩,
    ⟨⟨⟨"😀".toList, by decide, by decide, by decide, by decide⟩,
        [⟨"c".toList, by decide, by decide, by decide, by decide⟩]⟩,
      replacedLine ⟨"2".toList, by decide⟩⟩,
    ⟨⟨⟨"docs".toList, by decide, by decide, by decide, by decide⟩,
        [⟨"c".toList, by decide, by decide, by decide, by decide⟩,
          ⟨"c".toList, by decide, by decide, by decide, by decide⟩]⟩,
      replacedLine ⟨"3".toList, by decide⟩⟩ ]

theorem readPatches_keys_iff_keptFiles :
    (keptFiles.map (·.path.text)).Nodup ∧ (∀ f ∈ keptFiles, ¬ f.path.Prefixed) ∧
      (readPatches (renderSingle keptFiles)).map (·.path) =
        ["c".toList, "😀/c".toList, "docs/c/c".toList] := by
  have hnodup : (keptFiles.map (·.path.text)).Nodup := by decide
  have hplain : ∀ f ∈ keptFiles, ¬ f.path.Prefixed := by
    simp [keptFiles, DiffPath.Prefixed, Text.unitLength, Text.isSingleUnit]
  exact ⟨hnodup, hplain, (readPatches_keys_iff hnodup).2 hplain⟩

/-- Two files of one name in directories of one letter. -/
def mergedFiles : List SingleHunk :=
  [ ⟨⟨⟨"x".toList, by decide, by decide, by decide, by decide⟩,
        [⟨"y".toList, by decide, by decide, by decide, by decide⟩]⟩,
      replacedLine ⟨"1".toList, by decide⟩⟩,
    ⟨⟨⟨"z".toList, by decide, by decide, by decide, by decide⟩,
        [⟨"y".toList, by decide, by decide, by decide, by decide⟩]⟩,
      replacedLine ⟨"5".toList, by decide⟩⟩ ]

/-- Both paths lose their directory, and only the patch of the second file is left. -/
theorem keys_merged :
    mergedFiles.map (·.path.text) = ["x/y".toList, "z/y".toList] ∧
      readPatches (renderSingle mergedFiles) =
        [⟨"y".toList, .modified, [⟨.finite 5, 1, .finite 5, 1, [.finite 5], [.finite 5]⟩]⟩] := by
  refine ⟨by decide, ?_⟩
  rw [readPatches_renderSingle]
  decide +kernel

end Lockstep
