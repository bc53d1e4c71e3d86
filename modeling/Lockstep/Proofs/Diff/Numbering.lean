import Lockstep.Proofs.Selection
import Lockstep.Proofs.Diff.RoundTrip
import Lockstep.Proofs.Diff.Wording

/-!
# The numbers in a patch

Whatever text is read as a diff, what comes out is in order.  Every patch has a path
of its own that can be used, and in every hunk the lines that are added follow each
other inside of what the hunk covers of the new file, those that are removed inside
of what it covers of the old one, and as many lines are kept on both sides
(`readPatches_numbered`).

The numbers come from two places: a hunk starts where a header says, and it counts
the edits that were read into it.

* `DiffDraft.mem_hunks_line`: what a line does to the hunks.  It opens one, adds an
  edit to one, or leaves all as they are.
* `HunkDraft.readFrom_of_mem`: so a hunk has a header among the lines, and fewer edits
  than there are lines, however badly headers and lines fit together.
* `Hunk.numbered_ofEdits`: from exact starts, edits get exact numbers.
-/

namespace Lockstep

/-! ## Numbers along the edits -/

/-- What an edit does, seen from the new file to the old one. -/
def Edit.reversed : Edit → Edit
  | .add => .remove
  | .remove => .add
  | .keep => .keep

theorem removedFrom_eq (n : Nat) (es : List Edit) :
    removedFrom n es = addedFrom n (es.map Edit.reversed) := by
  induction es generalizing n with
  | nil => rfl
  | cons e es ih => cases e <;> simp [removedFrom, addedFrom, Edit.reversed, ih]

theorem oldCount_eq (es : List Edit) : oldCount es = newCount (es.map Edit.reversed) := by
  induction es with
  | nil => rfl
  | cons e es ih => cases e <;> simp [oldCount_cons, newCount_cons, Edit.reversed, ih]

theorem mem_addedFrom {m n : Nat} {es : List Edit} (h : m ∈ addedFrom n es) :
    n ≤ m ∧ m < n + newCount es := by
  induction es generalizing n with
  | nil => cases h
  | cons e es ih =>
    rw [newCount_cons]
    cases e with
    | add =>
      simp only [addedFrom, List.mem_cons, reduceCtorEq, if_false] at h ⊢
      rcases h with rfl | h
      · omega
      · have := ih h
        omega
    | remove => exact ih h
    | keep =>
      have := ih h
      simp only [reduceCtorEq, if_false]
      omega

theorem pairwise_addedFrom (n : Nat) (es : List Edit) : (addedFrom n es).Pairwise (· < ·) := by
  induction es generalizing n with
  | nil => exact .nil
  | cons e es ih =>
    cases e with
    | add => exact .cons (fun m hm => (mem_addedFrom hm).1) (ih (n + 1))
    | remove => exact ih n
    | keep => exact ih (n + 1)

theorem length_addedFrom (n : Nat) (es : List Edit) :
    (addedFrom n es).length + es.count .keep = newCount es := by
  induction es generalizing n with
  | nil => rfl
  | cons e es ih =>
    rw [newCount_cons]
    cases e with
    | add => simp [addedFrom, ← ih (n + 1), Nat.add_right_comm]
    | remove => simp [addedFrom, ← ih n]
    | keep => simp [addedFrom, ← ih (n + 1), Nat.add_assoc]

theorem count_keep_reversed (es : List Edit) :
    (es.map Edit.reversed).count .keep = es.count .keep := by
  induction es with
  | nil => rfl
  | cons e es ih => cases e <;> simp [Edit.reversed, ih]

/-! ## Hunks in order -/

/-- The numbers of a hunk are held exactly and in order: it starts at `old` and `new`, adds the
lines `added` of the new file and removes the lines `removed` of the old one, and the other lines
that it covers are the same on both sides. -/
structure Hunk.Numbered (h : Hunk) (old new : Nat) (added removed : List Nat) : Prop where
  oldStart : h.oldStart = .finite old
  newStart : h.newStart = .finite new
  added_eq : h.added = added.map .finite
  removed_eq : h.removed = removed.map .finite
  added_ascending : added.Pairwise (· < ·)
  removed_ascending : removed.Pairwise (· < ·)
  added_inside : ∀ n ∈ added, new ≤ n ∧ n < new + h.newLines
  removed_inside : ∀ n ∈ removed, old ≤ n ∧ n < old + h.oldLines
  kept : ∃ kept, h.newLines = added.length + kept ∧ h.oldLines = removed.length + kept

theorem Hunk.numbered_ofEdits {old new : Nat} {es : List Edit} (hold : old + oldCount es ≤ 2 ^ 53)
    (hnew : new + newCount es ≤ 2 ^ 53) :
    (Hunk.ofEdits (.finite old) (.finite new) es).Numbered old new (addedFrom new es)
      (removedFrom old es) := by
  rw [ofEdits_finite hold hnew]
  refine ⟨rfl, rfl, rfl, rfl, pairwise_addedFrom new es, ?_, fun n hn => mem_addedFrom hn, ?_,
    es.count .keep, ?_, ?_⟩
  · rw [removedFrom_eq]
    exact pairwise_addedFrom old _
  · intro n hn
    rw [removedFrom_eq] at hn
    rw [oldCount_eq]
    exact mem_addedFrom hn
  · rw [length_addedFrom]
  · rw [removedFrom_eq, oldCount_eq, ← count_keep_reversed, length_addedFrom]

/-! ## Where hunks come from -/

/-- A hunk as it is when its header has been read. -/
def HunkDraft.opened (header : Header.HunkHeader) : HunkDraft :=
  ⟨.ofDigits header.oldStart, .ofDigits header.newStart, []⟩

/-- A hunk with one more edit. -/
def HunkDraft.grown (h : HunkDraft) (e : Edit) : HunkDraft := { h with edits := e :: h.edits }

/-- A line that starts a hunk is a header of a hunk. -/
theorem Header.looseHunk?_of_read? {l : Text} {header : HunkHeader}
    (h : read? l = some (.hunk header)) : looseHunk? l = some header := by
  rw [read?] at h
  repeat' split at h
  any_goals cases h
  obtain ⟨_, hl, hk⟩ := Option.map_eq_some_iff.1 h
  cases hk
  exact hl

namespace DiffDraft

/-- The hunks of all files so far. -/
def hunks (d : DiffDraft) : List HunkDraft := d.files.flatMap (·.hunks)

variable {d : DiffDraft} {h : HunkDraft}

theorem hunks_restart : d.restart.hunks = d.hunks := by
  obtain ⟨files, expected⟩ := d
  cases files with
  | nil => rfl
  | cons file files =>
    simp only [restart]
    by_cases hempty : file.hunks.isEmpty = true
    · rw [if_pos hempty]
    · rw [if_neg hempty]
      rfl

theorem mem_hunks_restart {f : FileDraft → FileDraft} (hmem : h ∈ (d.restart.onFile f).hunks)
    (hf : ∀ file, (f file).hunks = file.hunks) : h ∈ d.hunks := by
  have honFile (d : DiffDraft) : (d.onFile f).hunks = d.hunks := by
    obtain ⟨files, expected⟩ := d
    cases files with
    | nil => rfl
    | cons file files => simp only [hunks, onFile, List.flatMap_cons, hf]
  rw [honFile, hunks_restart] at hmem
  exact hmem

theorem mem_hunks_edit {e : Edit} (hmem : h ∈ (d.edit e).hunks) :
    h ∈ d.hunks ∨ ∃ g ∈ d.hunks, h = g.grown e := by
  obtain ⟨files, expected⟩ := d
  cases files with
  | nil => exact .inl hmem
  | cons file files =>
    obtain ⟨old, new, hunks⟩ := file
    cases hunks with
    | nil => exact .inl hmem
    | cons g hunks =>
      rcases List.mem_cons.1 hmem with rfl | hmem
      · exact .inr ⟨g, List.mem_cons_self, rfl⟩
      · exact .inl (List.mem_cons_of_mem _ hmem)

/-- A line of a hunk is at most one edit. -/
theorem files_content (l : Text) (old new : Int) :
    (d.content l old new).files = d.files ∨
      ∃ e, (d.content l old new).files = (d.edit e).files := by
  rw [content.eq_def]
  cases l with
  | nil => exact .inl rfl
  | cons c t =>
    by_cases hminus : c = '-'
    · subst hminus
      exact .inr ⟨.remove, rfl⟩
    by_cases hplus : c = '+'
    · subst hplus
      exact .inr ⟨.add, rfl⟩
    cases hblank : Text.isBlank c with
    | true => exact .inr ⟨.keep, by simp [hblank]⟩
    | false => exact .inl (by simp [hblank])

theorem mem_hunks_content {l : Text} {old new : Int} (hmem : h ∈ (d.content l old new).hunks) :
    h ∈ d.hunks ∨ ∃ g ∈ d.hunks, ∃ e, h = g.grown e := by
  rw [hunks] at hmem
  rcases files_content (d := d) l old new with hfiles | ⟨e, hfiles⟩
  · rw [hfiles] at hmem
    exact .inl hmem
  · rw [hfiles] at hmem
    exact (mem_hunks_edit hmem).imp_right fun ⟨g, hg, heq⟩ => ⟨g, hg, e, heq⟩

theorem mem_hunks_header {l : Text} (hmem : h ∈ (d.header l).hunks) :
    h ∈ d.hunks ∨ ∃ header, Header.looseHunk? l = some header ∧ h = .opened header := by
  rw [header] at hmem
  cases hread : Header.read? l with
  | none =>
    rw [hread] at hmem
    exact .inl hmem
  | some kind =>
    rw [hread] at hmem
    cases kind with
    | file old new => exact .inl hmem
    | created => exact .inl (mem_hunks_restart hmem fun _ => rfl)
    | deleted => exact .inl (mem_hunks_restart hmem fun _ => rfl)
    | about => exact .inl (hunks_restart ▸ hmem)
    | old name => exact .inl (mem_hunks_restart hmem fun _ => rfl)
    | new name => exact .inl (mem_hunks_restart hmem fun _ => rfl)
    | hunk header =>
      obtain ⟨files, expected⟩ := d
      cases files with
      | nil =>
        -- a hunk before all files makes a file for itself
        rcases List.mem_cons.1 hmem with rfl | hmem
        · exact .inr ⟨header, Header.looseHunk?_of_read? hread, rfl⟩
        · cases hmem
      | cons file files =>
        rcases List.mem_cons.1 hmem with rfl | hmem
        · exact .inr ⟨header, Header.looseHunk?_of_read? hread, rfl⟩
        · exact .inl hmem

/-- What a line does to the hunks: it opens one, adds an edit to one, or leaves them as they are. -/
theorem mem_hunks_line {l : Text} (hmem : h ∈ (d.line l).hunks) :
    h ∈ d.hunks ∨ (∃ header, Header.looseHunk? l = some header ∧ h = .opened header) ∨
      ∃ g ∈ d.hunks, ∃ e, h = g.grown e := by
  rw [line] at hmem
  cases hexpected : d.expected with
  | none =>
    rw [hexpected] at hmem
    exact (mem_hunks_header hmem).imp_right .inl
  | some counts =>
    rw [hexpected] at hmem
    exact (mem_hunks_content hmem).imp_right .inr

end DiffDraft

/-- A hunk that was read from some lines: one of them is its header, and of each of the others it
has at most one edit. -/
structure HunkDraft.ReadFrom (ls : List Text) (h : HunkDraft) : Prop where
  header : ∃ l ∈ ls, ∃ header, Header.looseHunk? l = some header ∧
    h.oldStart = .ofDigits header.oldStart ∧ h.newStart = .ofDigits header.newStart
  length_lt : h.edits.length < ls.length

/-- All hunks are read from the lines, however headers and lines fit together. -/
theorem HunkDraft.readFrom_of_mem {ls : List Text} {h : HunkDraft}
    (hmem : h ∈ (ls.foldl DiffDraft.line {}).hunks) : h.ReadFrom ls := by
  induction ls using List.reverseRecOn generalizing h with
  | nil => cases hmem
  | append_singleton ls l ih =>
    rw [List.foldl_concat] at hmem
    rcases DiffDraft.mem_hunks_line hmem with hmem | ⟨header, hread, rfl⟩ | ⟨g, hg, e, rfl⟩
    · obtain ⟨⟨l', hl', hheader⟩, hlength⟩ := ih hmem
      refine ⟨⟨l', List.mem_append_left _ hl', hheader⟩, ?_⟩
      rw [List.length_append]
      omega
    · refine ⟨⟨l, List.mem_append_right _ List.mem_cons_self, header, hread, ?_, ?_⟩, ?_⟩
      · rw [opened]
      · rw [opened]
      · simp [opened]
    · obtain ⟨⟨l', hl', hheader⟩, hlength⟩ := ih hg
      refine ⟨⟨l', List.mem_append_left _ hl', hheader⟩, ?_⟩
      simpa [grown] using hlength

/-! ## Whole diffs -/

theorem Remaining.length_shown_le (r : Remaining) (l : Text) : (r.shown l).length ≤ 1 := by
  rw [shown]
  by_cases hin : r.Inside
  · rw [if_pos hin]
    cases Edit.ofLine? l <;> simp
  · rw [if_neg hin]
    split <;> simp

/-- An outline has no more lines than the diff. -/
theorem length_outlineFrom_le (r : Remaining) (ls : List Text) :
    (outlineFrom r.old r.new ls).length ≤ ls.length := by
  induction ls generalizing r with
  | nil => exact Nat.le_refl _
  | cons l ls ih =>
    have hshown := r.length_shown_le l
    have hrest := ih (r.after l)
    rw [outlineFrom_cons, List.length_append, List.length_cons]
    omega

theorem Text.length_lines_le (t : Text) : (lines t).length ≤ (fileLines t).length + 1 := by
  rw [fileLines, dropEmptyLast]
  split
  · rw [List.length_dropLast]
    omega
  · omega

/-- What can be known of a patch that was read from a file. -/
theorem FileDraft.of_finish? {f : FileDraft} {p : FilePatch} (h : f.finish? = some p) :
    p.path ≠ [] ∧ p.path ≠ PathName.devNull ∧ p.hunks = f.hunks.reverse.map HunkDraft.finish := by
  unfold finish? at h
  dsimp only at h
  generalize (if pathOf? f.old = some PathName.devNull then (ChangeStatus.added, pathOf? f.new)
    else if pathOf? f.new = some PathName.devNull then (.deleted, pathOf? f.old)
    else (.modified, pathOf? f.new)) = found at h
  obtain ⟨status, path?⟩ := found
  cases path? with
  | none => cases h
  | some path =>
    cases path with
    | nil => cases h
    | cons c path =>
      by_cases hnull : c :: path = PathName.devNull
      · simp [hnull] at h
      · simp only [hnull, if_false, Option.some.injEq] at h
        subst h
        exact ⟨List.cons_ne_nil _ _, hnull, rfl⟩

/-- The headers of hunks in a diff.  Content is none, whatever it looks like. -/
def hunkHeaders (diff : Text) : List Header.HunkHeader := (outline diff).filterMap Header.looseHunk?

/-- Every hunk starts so low that the numbers of all lines that could follow are below 2^53. -/
def HasRoom (diff : Text) : Prop :=
  ∀ h ∈ hunkHeaders diff,
    Text.digitsToNat h.oldStart + diff.fileLines.length < 2 ^ 53 ∧
      Text.digitsToNat h.newStart + diff.fileLines.length < 2 ^ 53

instance (diff : Text) : Decidable (HasRoom diff) :=
  List.decidableBAll (fun h : Header.HunkHeader =>
    Text.digitsToNat h.oldStart + diff.fileLines.length < 2 ^ 53 ∧
      Text.digitsToNat h.newStart + diff.fileLines.length < 2 ^ 53) (hunkHeaders diff)

/-- A hunk that is read from a diff with room has its numbers in order. -/
theorem HunkDraft.ReadFrom.numbered {diff : Text} {h : HunkDraft}
    (hread : h.ReadFrom (outline diff)) (hroom : HasRoom diff) :
    ∃ old new added removed, h.finish.Numbered old new added removed := by
  obtain ⟨⟨l, hl, header, hheader, hold, hnew⟩, hlength⟩ := hread
  have hstarts := hroom header (List.mem_filterMap.2 ⟨l, hl, hheader⟩)
  have hlines : h.edits.reverse.length ≤ diff.fileLines.length := by
    have houtline : (outline diff).length ≤ diff.lines.length := length_outlineFrom_le ⟨0, 0⟩ _
    have hfile := diff.length_lines_le
    rw [List.length_reverse]
    omega
  have holdCount : oldCount h.edits.reverse ≤ h.edits.reverse.length := List.countP_le_length
  have hnewCount : newCount h.edits.reverse ≤ h.edits.reverse.length := List.countP_le_length
  have holdStart : h.oldStart = .finite (Text.digitsToNat header.oldStart) := by
    rw [hold]
    exact LineNumber.ofNat_of_le (by omega)
  have hnewStart : h.newStart = .finite (Text.digitsToNat header.newStart) := by
    rw [hnew]
    exact LineNumber.ofNat_of_le (by omega)
  have hnumbered : (Hunk.ofEdits (.finite (Text.digitsToNat header.oldStart))
      (.finite (Text.digitsToNat header.newStart)) h.edits.reverse).Numbered _ _ _ _ :=
    Hunk.numbered_ofEdits (by omega) (by omega)
  rw [← holdStart, ← hnewStart] at hnumbered
  exact ⟨_, _, _, _, hnumbered⟩

/-- Whatever text is read as a diff: the patches have paths of their own, none of which is empty or
stands for a file that is not there, and in every hunk the numbers are in order. -/
theorem readPatches_numbered {diff : Text} (hroom : HasRoom diff) :
    ((readPatches diff).map (·.path)).Nodup ∧
      ∀ p ∈ readPatches diff, p.path ≠ [] ∧ p.path ≠ PathName.devNull ∧
        ∀ h ∈ p.hunks, ∃ old new added removed, h.Numbered old new added removed := by
  refine ⟨nodup_lastBy _, ?_⟩
  intro p hp
  obtain ⟨f, hf, hfinish⟩ := List.mem_filterMap.1 (mem_of_mem_lastBy hp)
  obtain ⟨hne, hname, hhunks⟩ := FileDraft.of_finish? hfinish
  refine ⟨hne, hname, ?_⟩
  intro h hh
  rw [hhunks] at hh
  obtain ⟨g, hg, rfl⟩ := List.mem_map.1 hh
  have hmem : g ∈ ((outline diff).foldl DiffDraft.line {}).hunks :=
    List.mem_flatMap.2 ⟨f, List.mem_reverse.1 hf, List.mem_reverse.1 hg⟩
  exact (HunkDraft.readFrom_of_mem hmem).numbered hroom

/-- A diff in which a hunk has one line more than its header says, so that the header lines of the
next file are taken for lines of the hunk. -/
def overrunDiff : Text :=
  Text.unlines (["--- a/f", "+++ b/f", "@@ -4 +4 @@", "-a", "-b", "+c", "--- a/g", "+++ b/g"].map
    String.toList)

theorem readPatches_numbered_overrun :
    HasRoom overrunDiff ∧
      readPatches overrunDiff =
        [⟨['f'], .modified, [⟨.finite 4, 3, .finite 4, 2, [.finite 4, .finite 5],
          [.finite 4, .finite 5, .finite 6]⟩]⟩] ∧
      ∀ p ∈ readPatches overrunDiff, ∀ h ∈ p.hunks,
        ∃ old new added removed, h.Numbered old new added removed := by
  have hroom : HasRoom overrunDiff := by decide +kernel
  refine ⟨hroom, by decide +kernel, ?_⟩
  intro p hp
  exact ((readPatches_numbered hroom).2 p hp).2.2

end Lockstep
