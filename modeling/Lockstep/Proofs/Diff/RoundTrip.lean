import Lockstep.Proofs.Numbers
import Lockstep.Proofs.Diff.Header

/-!
# Reading a written diff

`readPatches` undoes `renderDiff`, whatever the lines of the files contain.  The
reader counts lines twice, once for the outline and once for the draft.  Both
counts run through the lines of a hunk together (`DiffDraft.readLines_body`), so
that no line of a file is ever taken for a header, and no header for a line.

* `DiffDraft.readLines_hunk`, `DiffDraft.readLines_file`: what is read of a hunk and
  of a file is what was written, whatever follows.
* `readPatches_renderFiles`: the patches come back in order, with any numbers.
* `HunkText.Exact.hunk_eq`: the lines of a hunk get their numbers from its starts, if
  these are held exactly.
* `readPatches_renderDiff`: so the patches are those that are meant.
-/

namespace Lockstep

namespace DiffDraft

/-! ## Both passes at once -/

/-- Reads lines with both passes, where `old` and `new` lines of the hunk at hand are still to come
for the outline. -/
def readLines (old new : Int) (d : DiffDraft) (ls : List Text) : DiffDraft :=
  (outlineFrom old new ls).foldl DiffDraft.line d

variable (d : DiffDraft) (ls : List Text)

theorem readLines_announced (t : Text) :
    readLines 0 0 d (("diff --git ".toList ++ t) :: ls) = readLines 0 0 d ls := rfl

/-- A note is left out, in a hunk and behind it. -/
theorem readLines_note (old new : Int) (t : Text) :
    readLines old new d (('\\' :: t) :: ls) = readLines old new d ls := by
  simp [readLines, outlineFrom]

theorem outlineFrom_header {l : Text} (hdiff : Text.after? "diff ".toList l = none)
    (hnote : l.head? ≠ some '\\') :
    outlineFrom 0 0 (l :: ls) =
      match Header.strictHunk? l with
      | some h => l :: outlineFrom (Header.count h.oldLines) (Header.count h.newLines) ls
      | none => l :: outlineFrom 0 0 ls := by
  have hkept : ¬ ((Text.after? "diff ".toList l).isSome = true ∨ l.head? = some '\\') := by
    rw [hdiff]
    simpa using hnote
  rw [outlineFrom]
  exact (if_neg (by decide)).trans (if_neg hkept)

/-- Outside a hunk, any other line goes to the reader of headers. -/
theorem readLines_header {l : Text} (hdiff : Text.after? "diff ".toList l = none)
    (hnote : l.head? ≠ some '\\') (hhunk : Header.strictHunk? l = none) (h : d.expected = none) :
    readLines 0 0 d (l :: ls) = readLines 0 0 (d.header l) ls := by
  have hline : d.line l = d.header l := by
    rw [DiffDraft.line, h]
  rw [readLines, outlineFrom_header ls hdiff hnote, hhunk, ← hline]
  rfl

/-- The outline counts the lines of a hunk as its header does. -/
theorem readLines_headerText (old new : SpanText) (t : Text) :
    readLines 0 0 d ((SpanText.headerText old new ++ t) :: ls) =
      readLines old.lines new.lines (d.line (SpanText.headerText old new ++ t)) ls := by
  have hhead : (SpanText.headerText old new ++ t).head? = some '@' := rfl
  rw [readLines, outlineFrom_header ls rfl (by simp [hhead]), SpanText.strictHunk?_headerText]
  rfl

/-! ## Lines of a hunk -/

/-- What the draft expects while these edits are still to come. -/
def expectedOf (es : List Edit) : Option (Int × Int) :=
  if es = [] then none else some (oldCount es, newCount es)

theorem expectedOf_eq (es : List Edit) :
    (if (oldCount es : Int) = 0 ∧ (newCount es : Int) = 0 then none
      else some ((oldCount es : Int), (newCount es : Int))) = expectedOf es := by
  simp only [Int.natCast_eq_zero, count_eq_zero_iff, expectedOf]

theorem outlineFrom_content (e : Edit) (es : List Edit) (t : Text) :
    outlineFrom (oldCount (e :: es)) (newCount (e :: es)) ((e.sign :: t) :: ls) =
      [e.sign] :: outlineFrom (oldCount es) (newCount es) ls := by
  have hpos : 0 < (oldCount (e :: es) : Int) ∨ 0 < (newCount (e :: es) : Int) := by
    cases e <;> simp [oldCount_cons, newCount_cons]
  rw [outlineFrom, if_pos hpos]
  cases e <;> simp [Edit.sign, oldCount_cons, newCount_cons]

theorem content_sign (e : Edit) (old new : Int) :
    d.content [e.sign] (old + (if e = .add then 0 else 1 : Nat))
        (new + (if e = .remove then 0 else 1 : Nat)) =
      { d.edit e with expected := if old = 0 ∧ new = 0 then none else some (old, new) } := by
  cases e with
  | add =>
    change { d.edit .add with
      expected := if old + 0 = 0 ∧ new + 1 - 1 = 0 then none else some (old + 0, new + 1 - 1) } = _
    rw [Int.add_zero, Int.add_sub_cancel]
  | remove =>
    change { d.edit .remove with
      expected := if old + 1 - 1 = 0 ∧ new + 0 = 0 then none else some (old + 1 - 1, new + 0) } = _
    rw [Int.add_zero, Int.add_sub_cancel]
  | keep =>
    change { d.edit .keep with
      expected :=
        if old + 1 - 1 = 0 ∧ new + 1 - 1 = 0 then none else some (old + 1 - 1, new + 1 - 1) } = _
    rw [Int.add_sub_cancel, Int.add_sub_cancel]

/-- The outline and the draft both count a line off. -/
theorem readLines_content (e : Edit) (es : List Edit) (t : Text)
    (h : d.expected = expectedOf (e :: es)) :
    readLines (oldCount (e :: es)) (newCount (e :: es)) d ((e.sign :: t) :: ls) =
      readLines (oldCount es) (newCount es) { d.edit e with expected := expectedOf es } ls := by
  have hline : d.line [e.sign] = { d.edit e with expected := expectedOf es } := by
    rw [DiffDraft.line, h, expectedOf, if_neg (List.cons_ne_nil _ _), oldCount_cons, newCount_cons]
    dsimp only
    rw [Int.natCast_add, Int.natCast_add, content_sign, expectedOf_eq]
  rw [readLines, outlineFrom_content, List.foldl_cons, hline]
  rfl

/-- The lines of a hunk are read as its edits, and there the hunk ends. -/
theorem readLines_body (body : List DiffLine) (file : FileDraft) (files : List FileDraft)
    (h : HunkDraft) (hunks : List HunkDraft) :
    readLines (oldCount (body.map (·.edit))) (newCount (body.map (·.edit)))
        ⟨{ file with hunks := h :: hunks } :: files, expectedOf (body.map (·.edit))⟩
        ((body.flatMap DiffLine.lines).map Text.dropReturn ++ ls) =
      readLines 0 0
        ⟨{ file with
            hunks := { h with edits := (body.map (·.edit)).reverse ++ h.edits } :: hunks } :: files,
          none⟩ ls := by
  induction body generalizing h with
  | nil => rfl
  | cons l body ih =>
    obtain ⟨e, content, unended⟩ := l
    have hsign : e.sign ≠ '\r' := by cases e <;> decide
    have hnote (old new : Int) (d : DiffDraft) (ls : List Text) :
        readLines old new d ((if unended then [DiffLine.note] else []).map Text.dropReturn ++ ls) =
          readLines old new d ls := by
      cases unended with
      | true => exact readLines_note d ls old new _
      | false => rfl
    simp only [List.flatMap_cons, DiffLine.lines, List.map_append, List.map_cons, List.cons_append,
      List.append_assoc, Text.dropReturn_cons hsign, List.reverse_cons]
    rw [readLines_content _ _ _ _ _ rfl, hnote]
    exact ih { h with edits := e :: h.edits }

end DiffDraft

/-! ## Hunks -/

namespace WrittenHunk

/-- The hunk as far as it is read when its last line has been read. -/
def draft (h : WrittenHunk) : HunkDraft :=
  ⟨.ofDigits h.old.start.1, .ofDigits h.new.start.1, h.edits.reverse⟩

theorem edits_ne_nil (h : WrittenHunk) : h.edits ≠ [] := by
  simpa [edits] using h.body_ne

theorem feed_not_mem {h : WrittenHunk} {l : Text} (hl : l ∈ h.lines) : '\n' ∉ l := by
  rcases List.mem_cons.1 hl with rfl | hl
  · rw [List.mem_append, not_or]
    exact ⟨SpanText.not_mem_headerText _ _ (by decide) (by decide), h.heading.2⟩
  · obtain ⟨⟨e, content, unended⟩, -, hl⟩ := List.mem_flatMap.1 hl
    have hsign : '\n' ≠ e.sign := by cases e <;> decide
    rcases List.mem_cons.1 hl with rfl | hl
    · simp [hsign, content.2]
    · cases unended with
      | true =>
        obtain rfl := List.mem_singleton.1 hl
        decide
      | false => cases hl

end WrittenHunk

namespace HunkText

/-- The hunk as far as it is read when its last line has been read. -/
def draft (h : HunkText) : HunkDraft := ⟨.ofNat h.oldStart, .ofNat h.newStart, h.edits.reverse⟩

theorem draft_written (h : HunkText) : h.written.draft = h.draft := by
  have hnumber (n : Nat) : LineNumber.ofDigits (HunkText.digits n) = .ofNat n := by
    rw [LineNumber.ofDigits, HunkText.digitsToNat_digits]
  simp only [WrittenHunk.draft, written, SpanText.ofNat, hnumber]
  rfl

end HunkText

namespace DiffDraft

variable (ls : List Text)

theorem line_headerText (h : WrittenHunk) (t : Text) (file : FileDraft) (files : List FileDraft) :
    DiffDraft.line ⟨file :: files, none⟩ (SpanText.headerText h.old h.new ++ t) =
      ⟨{ file with
          hunks := ⟨.ofDigits h.old.start.1, .ofDigits h.new.start.1, []⟩ :: file.hunks } :: files,
        expectedOf h.edits⟩ := by
  have hexpected : expectedOf h.edits = some ((h.old.lines : Int), (h.new.lines : Int)) := by
    rw [expectedOf, if_neg h.edits_ne_nil, WrittenHunk.edits, h.old_eq, h.new_eq]
  simp only [DiffDraft.line, header, SpanText.read?_headerText, hexpected]
  rfl

/-- A hunk is read up to its end, whatever follows. -/
theorem readLines_hunk (h : WrittenHunk) (file : FileDraft) (files : List FileDraft) :
    readLines 0 0 ⟨file :: files, none⟩ (h.lines.map Text.dropReturn ++ ls) =
      readLines 0 0 ⟨{ file with hunks := h.draft :: file.hunks } :: files, none⟩ ls := by
  have hreturn : '\r' ∉ SpanText.headerText h.old h.new :=
    SpanText.not_mem_headerText _ _ (by decide) (by decide)
  rw [WrittenHunk.lines, List.map_cons, List.cons_append, Text.dropReturn_append hreturn,
    readLines_headerText, line_headerText, ← h.old_eq, ← h.new_eq]
  refine (readLines_body ls h.body file files _ file.hunks).trans ?_
  simp only [List.append_nil, WrittenHunk.draft, WrittenHunk.edits]

theorem readLines_hunks (hs : List HunkText) (file : FileDraft) (files : List FileDraft) :
    readLines 0 0 ⟨file :: files, none⟩ ((hs.flatMap HunkText.lines).map Text.dropReturn ++ ls) =
      readLines 0 0
        ⟨{ file with hunks := (hs.map HunkText.draft).reverse ++ file.hunks } :: files, none⟩
        ls := by
  induction hs generalizing file with
  | nil => rfl
  | cons h hs ih =>
    rw [List.flatMap_cons, List.map_append, List.append_assoc, ← h.lines_written, readLines_hunk,
      h.draft_written, ih, List.map_cons, List.reverse_cons, List.append_assoc]
    rfl

end DiffDraft

/-! ## Files -/

theorem ModeText.solid (m : ModeText) : Text.Solid m.1 := by
  have hdigits := m.2
  simp only [Header.isDigits, Bool.and_eq_true, List.all_eq_true] at hdigits
  intro c hc
  refine Text.isBlank_of_isAlphanum ?_
  rw [Char.isAlphanum, hdigits.2 c hc, Bool.or_true]

theorem HashText.solid (hash : HashText) : Text.Solid hash.1 :=
  fun c hc => Text.isBlank_of_isAlphanum (List.all_eq_true.1 hash.2.2 c hc)

theorem IndexText.spaced_line (i : IndexText) : Text.Spaced i.line := by
  have hmode : Text.Spaced ((i.mode.map (' ' :: ·.1)).getD []) := by
    cases i.mode with
    | none => exact fun c hc => absurd hc List.not_mem_nil
    | some m => exact .append (a := [' ']) (by decide) m.solid.spaced
  exact .append (by decide) (.append i.old.solid.spaced
    (.append (by decide) (.append i.new.solid.spaced hmode)))

theorem PlainPath.spaced_written (p : PlainPath) {side : Char} (hside : side = 'a' ∨ side = 'b')
    (absent : Bool) : Text.Spaced (p.written side absent) := by
  cases absent with
  | true =>
    have hdevNull : Text.Spaced PathName.devNull := by decide
    exact hdevNull
  | false =>
    have hletter : Text.Spaced [side, '/'] := by
      rcases hside with rfl | rfl <;> decide
    exact hletter.append p.solid.spaced

namespace FileText

theorem spaced_modeLine {f : FileText} {l : Text} (h : l ∈ f.modeLine?) : l.Spaced := by
  unfold modeLine? at h
  split at h
  · obtain ⟨m, -, rfl⟩ := Option.map_eq_some_iff.1 h
    exact .append (by decide) m.solid.spaced
  · obtain ⟨m, -, rfl⟩ := Option.map_eq_some_iff.1 h
    exact .append (by decide) m.solid.spaced
  · cases h

theorem spaced_oldText (f : FileText) : Text.Spaced ("--- ".toList ++ f.oldText) :=
  .append (by decide) (f.path.spaced_written (.inl rfl) _)

theorem spaced_newText (f : FileText) : Text.Spaced ("+++ ".toList ++ f.newText) :=
  .append (by decide) (f.path.spaced_written (.inr rfl) _)

/-- The file as far as it is read when its last line has been read. -/
def draft (f : FileText) : FileDraft :=
  ⟨some f.oldName, some f.newName, (f.hunks.map HunkText.draft).reverse⟩

end FileText

namespace DiffDraft

variable (ls : List Text)

/-- The drafts before the hunks of a file: nothing is known of it behind other files, which have
their hunks, or some of its names are known. -/
inductive Fresh (files : List FileDraft) : DiffDraft → Prop where
  | unnamed (h : ∀ file ∈ files.head?, file.hunks ≠ []) : Fresh files ⟨files, none⟩
  | named (old new : Option Text) : Fresh files ⟨⟨old, new, []⟩ :: files, none⟩

variable {d : DiffDraft} {files : List FileDraft}

theorem Fresh.expected (h : Fresh files d) : d.expected = none := by
  cases h <;> rfl

theorem Fresh.restart (h : Fresh files d) :
    ∃ old new, d.restart = ⟨⟨old, new, []⟩ :: files, none⟩ := by
  cases h with
  | unnamed h =>
    refine ⟨none, none, ?_⟩
    cases files with
    | nil => rfl
    | cons file files => simp [DiffDraft.restart, h file rfl]
  | named old new => exact ⟨old, new, rfl⟩

theorem readLines_modeLine (f : FileText) (h : Fresh files d) :
    ∃ d', Fresh files d' ∧
      readLines 0 0 d (f.modeLine?.toList.map Text.dropReturn ++ ls) = readLines 0 0 d' ls := by
  obtain ⟨old, new, hrestart⟩ := h.restart
  cases hline : f.modeLine? with
  | none => exact ⟨d, h, rfl⟩
  | some l =>
    have hreturn : '\r' ∉ l := (FileText.spaced_modeLine hline).not_mem (by decide) (by decide)
    rw [Option.toList_some, List.map_singleton, List.singleton_append,
      Text.dropReturn_eq_self hreturn]
    unfold FileText.modeLine? at hline
    split at hline
    · obtain ⟨m, -, rfl⟩ := Option.map_eq_some_iff.1 hline
      refine ⟨_, .named (some PathName.devNull) new, ?_⟩
      rw [readLines_header _ _ rfl (by simp) rfl h.expected]
      simp only [header, m.read?_created, hrestart, onFile]
    · obtain ⟨m, -, rfl⟩ := Option.map_eq_some_iff.1 hline
      refine ⟨_, .named old (some PathName.devNull), ?_⟩
      rw [readLines_header _ _ rfl (by simp) rfl h.expected]
      simp only [header, m.read?_deleted, hrestart, onFile]
    · cases hline

theorem readLines_index (index : Option IndexText) (h : Fresh files d) :
    ∃ d', Fresh files d' ∧
      readLines 0 0 d ((index.map IndexText.line).toList.map Text.dropReturn ++ ls) =
        readLines 0 0 d' ls := by
  obtain ⟨old, new, hrestart⟩ := h.restart
  cases index with
  | none => exact ⟨d, h, rfl⟩
  | some i =>
    have hreturn : '\r' ∉ i.line := i.spaced_line.not_mem (by decide) (by decide)
    have hhead : i.line.head? = some 'i' := rfl
    refine ⟨_, .named old new, ?_⟩
    rw [Option.map_some, Option.toList_some, List.map_singleton, List.singleton_append,
      Text.dropReturn_eq_self hreturn, readLines_header _ _ rfl (by simp [hhead]) rfl h.expected]
    simp only [header, i.read?_line, hrestart]

/-- Whatever is known of the names, the two lines with names settle them. -/
theorem readLines_names {old new oldName newName : Text}
    (hold : Header.read? ("--- ".toList ++ old) = some (.old oldName))
    (hnew : Header.read? ("+++ ".toList ++ new) = some (.new newName))
    (hspaced : Text.Spaced ("--- ".toList ++ old)) (hspaced' : Text.Spaced ("+++ ".toList ++ new))
    (h : Fresh files d) :
    readLines 0 0 d (["--- ".toList ++ old, "+++ ".toList ++ new].map Text.dropReturn ++ ls) =
      readLines 0 0 ⟨⟨some oldName, some newName, []⟩ :: files, none⟩ ls := by
  obtain ⟨oldBefore, newBefore, hrestart⟩ := h.restart
  have hfirst : d.header ("--- ".toList ++ old) =
      ⟨⟨some oldName, newBefore, []⟩ :: files, none⟩ := by
    simp only [header, hold, hrestart, onFile]
  have hsecond : DiffDraft.header ("+++ ".toList ++ new)
      ⟨⟨some oldName, newBefore, []⟩ :: files, none⟩ =
      ⟨⟨some oldName, some newName, []⟩ :: files, none⟩ := by
    simp only [header, hnew]
    rfl
  rw [List.map_cons, List.map_singleton, List.cons_append, List.singleton_append,
    Text.dropReturn_eq_self (hspaced.not_mem (by decide) (by decide)),
    Text.dropReturn_eq_self (hspaced'.not_mem (by decide) (by decide)),
    readLines_header _ _ rfl (by simp) rfl h.expected, hfirst,
    readLines_header _ _ rfl (by simp) rfl rfl, hsecond]

/-- A file is read up to the end of its last hunk, whatever follows. -/
theorem readLines_file (f : FileText) (h : ∀ file ∈ files.head?, file.hunks ≠ []) :
    readLines 0 0 ⟨files, none⟩ (f.lines.map Text.dropReturn ++ ls) =
      readLines 0 0 ⟨f.draft :: files, none⟩ ls := by
  have hannounced (ls : List Text) :
      readLines 0 0 ⟨files, none⟩
          ((f.announced.map ("diff --git ".toList ++ ·.1)).toList.map Text.dropReturn ++ ls) =
        readLines 0 0 ⟨files, none⟩ ls := by
    cases f.announced with
    | none => rfl
    | some t =>
      rw [Option.map_some, Option.toList_some, List.map_singleton, List.singleton_append,
        Text.dropReturn_append (by decide), readLines_announced]
  simp only [FileText.lines, FileText.header, List.map_append, List.append_assoc]
  rw [hannounced]
  obtain ⟨d, hfresh, hmode⟩ := readLines_modeLine _ f (.unnamed h)
  obtain ⟨d', hfresh', hindex⟩ := readLines_index _ f.index hfresh
  rw [hmode, hindex,
    readLines_names _ f.read?_oldText f.read?_newText f.spaced_oldText f.spaced_newText
    hfresh', readLines_hunks, List.append_nil]
  rfl

end DiffDraft

theorem FileText.feed_not_mem {f : FileText} {l : Text} (h : l ∈ f.lines) : '\n' ∉ l := by
  have hspaced {t : Text} (ht : t.Spaced) : '\n' ∉ t := ht.not_mem (by decide) (by decide)
  rcases List.mem_append.1 h with h | h
  · simp only [header, List.mem_append, Option.mem_toList, List.mem_cons, List.not_mem_nil,
      or_false] at h
    rcases h with h | h | h | rfl | rfl
    · obtain ⟨t, -, rfl⟩ := Option.map_eq_some_iff.1 h
      simpa using t.2
    · exact hspaced (spaced_modeLine h)
    · obtain ⟨i, -, rfl⟩ := Option.map_eq_some_iff.1 h
      exact hspaced i.spaced_line
    · exact hspaced f.spaced_oldText
    · exact hspaced f.spaced_newText
  · obtain ⟨hunk, -, hl⟩ := List.mem_flatMap.1 h
    rw [← hunk.lines_written] at hl
    exact WrittenHunk.feed_not_mem hl

/-- Lines that are read as a file with hunks, whatever stands before and behind them. -/
structure ReadsAs (ls : List Text) (draft : FileDraft) : Prop where
  feed_not_mem : ∀ l ∈ ls, '\n' ∉ l
  hunks_ne : draft.hunks ≠ []
  readLines_eq : ∀ {files : List FileDraft} (rest : List Text),
    (∀ file ∈ files.head?, file.hunks ≠ []) →
    DiffDraft.readLines 0 0 ⟨files, none⟩ (ls.map Text.dropReturn ++ rest) =
      DiffDraft.readLines 0 0 ⟨draft :: files, none⟩ rest

theorem FileText.readsAs (f : FileText) : ReadsAs f.lines f.draft where
  feed_not_mem := fun _ => f.feed_not_mem
  hunks_ne := by simpa [draft] using f.hunks_ne
  readLines_eq := fun rest h => DiffDraft.readLines_file rest f h

/-! ## Whole diffs -/

theorem putBy_eq_append {key : α → Text} {item : α} {items : List α}
    (h : key item ∉ items.map key) : putBy key item items = items ++ [item] := by
  induction items with
  | nil => rfl
  | cons other items ih =>
    rw [List.map_cons, List.mem_cons, not_or] at h
    rw [putBy, if_neg (Ne.symm h.1), ih h.2, List.cons_append]

/-- Items with distinct keys all keep their places. -/
theorem lastBy_eq_self {key : α → Text} {items : List α} (h : (items.map key).Nodup) :
    lastBy key items = items := by
  have hfold (done items : List α) (h : ((done ++ items).map key).Nodup) :
      items.foldl (fun done item => putBy key item done) done = done ++ items := by
    induction items generalizing done with
    | nil => rw [List.foldl_nil, List.append_nil]
    | cons item items ih =>
      have hitem : key item ∉ done.map key := by
        intro hmem
        rw [List.map_append, List.map_cons] at h
        exact (List.nodup_append.1 h).2.2 _ hmem _ List.mem_cons_self rfl
      rw [List.append_cons] at h
      rw [List.foldl_cons, putBy_eq_append hitem, ih _ h, List.append_assoc, List.singleton_append]
  exact hfold [] items h

section

variable {α : Type} {lines : α → List Text} {draft : α → FileDraft}

theorem readLines_flatMap (h : ∀ a, ReadsAs (lines a) (draft a)) (as : List α) (rest : List Text)
    {files : List FileDraft} (hfiles : ∀ file ∈ files.head?, file.hunks ≠ []) :
    DiffDraft.readLines 0 0 ⟨files, none⟩ ((as.flatMap lines).map Text.dropReturn ++ rest) =
      DiffDraft.readLines 0 0 ⟨(as.map draft).reverse ++ files, none⟩ rest := by
  induction as generalizing files with
  | nil => rfl
  | cons a as ih =>
    have hhunks : ∀ file ∈ (draft a :: files).head?, file.hunks ≠ [] := by
      rintro file ⟨⟩
      exact (h a).hunks_ne
    rw [List.flatMap_cons, List.map_append, List.append_assoc, (h a).readLines_eq _ hfiles,
      ih hhunks, List.map_cons, List.reverse_cons, List.append_assoc]
    rfl

/-- The drafts of all files, and nothing else, are read from their lines. -/
theorem foldl_outline_unlines (h : ∀ a, ReadsAs (lines a) (draft a)) (as : List α) :
    (outline (Text.unlines (as.flatMap lines))).foldl DiffDraft.line {} =
      ⟨(as.map draft).reverse, none⟩ := by
  have hfeed : ∀ l ∈ as.flatMap lines, '\n' ∉ l := by
    intro l hl
    obtain ⟨a, -, hl⟩ := List.mem_flatMap.1 hl
    exact (h a).feed_not_mem l hl
  have hread : DiffDraft.readLines 0 0 ⟨[], none⟩
      ((as.flatMap lines).map Text.dropReturn ++ [[]]) = _ :=
    readLines_flatMap h as [[]] (by simp)
  rw [outline, Text.lines_unlines hfeed]
  refine hread.trans ?_
  rw [List.append_nil]
  rfl

/-- The patches of all files are read from their text, and of those with one path the last. -/
theorem readPatches_unlines (h : ∀ a, ReadsAs (lines a) (draft a)) {patch : α → FilePatch}
    (hfinish : ∀ a, (draft a).finish? = some (patch a)) (as : List α) :
    readPatches (Text.unlines (as.flatMap lines)) = lastBy (·.path) (as.map patch) := by
  have hpatches : (as.map draft).filterMap FileDraft.finish? = as.map patch := by
    rw [List.filterMap_map, ← List.filterMap_eq_map]
    exact congrArg (List.filterMap · as) (funext hfinish)
  rw [readPatches, foldl_outline_unlines h, List.reverse_reverse, hpatches]

end

theorem FileText.finish?_draft (f : FileText) : f.draft.finish? = some f.patch := by
  rw [draft, finish?_names, List.reverse_reverse, List.map_map]
  have hfinish : HunkDraft.finish ∘ HunkText.draft = HunkText.hunk := by
    funext h
    simp only [Function.comp, HunkText.draft, HunkDraft.finish, List.reverse_reverse, HunkText.hunk]
  rw [hfinish]
  rfl

/-- The patches of distinct files are read from their text, in order. -/
theorem readPatches_renderFiles {files : List FileText} (h : (files.map (·.path.text)).Nodup) :
    readPatches (renderFiles files) = files.map FileText.patch := by
  have hkeys : ((files.map FileText.patch).map (·.path)).Nodup := by
    rw [List.map_map]
    exact h
  rw [renderFiles, readPatches_unlines FileText.readsAs FileText.finish?_draft,
    lastBy_eq_self hkeys]

/-! ## Numbers of lines -/

/-- The lines of a hunk get their numbers one after the other, from the starts on. -/
theorem Hunk.walk_finite (h : Hunk) {old new : Nat} {es : List Edit}
    (hold : old + oldCount es ≤ 2 ^ 53) (hnew : new + newCount es ≤ 2 ^ 53) :
    h.walk (.finite old) (.finite new) es =
      { h with
        oldLines := h.oldLines + oldCount es
        newLines := h.newLines + newCount es
        added := h.added ++ (addedFrom new es).map .finite
        removed := h.removed ++ (removedFrom old es).map .finite } := by
  induction es generalizing h old new with
  | nil => simp [Hunk.walk, oldCount, newCount, addedFrom, removedFrom]
  | cons e es ih =>
    rw [oldCount_cons] at hold ⊢
    rw [newCount_cons] at hnew ⊢
    cases e with
    | add =>
      simp only [if_true, reduceCtorEq, if_false] at hold hnew ⊢
      have hnext : (LineNumber.finite new).next = .finite (new + 1) :=
        LineNumber.plus_finite (by omega)
      rw [Hunk.walk, hnext, ih _ (by omega) (by omega)]
      simp [addedFrom, removedFrom, Nat.add_comm, Nat.add_left_comm]
    | remove =>
      simp only [if_true, reduceCtorEq, if_false] at hold hnew ⊢
      have hnext : (LineNumber.finite old).next = .finite (old + 1) :=
        LineNumber.plus_finite (by omega)
      rw [Hunk.walk, hnext, ih _ (by omega) (by omega)]
      simp [addedFrom, removedFrom, Nat.add_comm, Nat.add_left_comm]
    | keep =>
      simp only [reduceCtorEq, if_false] at hold hnew ⊢
      have holdNext : (LineNumber.finite old).next = .finite (old + 1) :=
        LineNumber.plus_finite (by omega)
      have hnewNext : (LineNumber.finite new).next = .finite (new + 1) :=
        LineNumber.plus_finite (by omega)
      rw [Hunk.walk, holdNext, hnewNext, ih _ (by omega) (by omega)]
      simp [addedFrom, removedFrom, Nat.add_comm, Nat.add_left_comm]

theorem Hunk.ofEdits_finite {old new : Nat} {es : List Edit} (hold : old + oldCount es ≤ 2 ^ 53)
    (hnew : new + newCount es ≤ 2 ^ 53) :
    Hunk.ofEdits (.finite old) (.finite new) es =
      ⟨.finite old, oldCount es, .finite new, newCount es, (addedFrom new es).map .finite,
        (removedFrom old es).map .finite⟩ := by
  rw [ofEdits, walk_finite _ hold hnew]
  simp [empty]

/-- Numbers that are held exactly come back as they are. -/
theorem HunkText.Exact.hunk_eq {h : HunkText} (hexact : h.Exact) : h.hunk = h.exactHunk := by
  have hold : LineNumber.ofNat h.oldStart = .finite h.oldStart :=
    LineNumber.ofNat_of_le (Nat.le_trans (Nat.le_add_right _ _) hexact.old_le)
  have hnew : LineNumber.ofNat h.newStart = .finite h.newStart :=
    LineNumber.ofNat_of_le (Nat.le_trans (Nat.le_add_right _ _) hexact.new_le)
  rw [hunk, hold, hnew]
  exact Hunk.ofEdits_finite hexact.old_le hexact.new_le

/-! ## Diffs with exact numbers -/

theorem DiffFile.patch_toFileText (f : DiffFile) : f.toFileText.patch = f.patch := by
  have hhunks : f.hunks.map HunkText.hunk = f.hunks.map HunkText.exactHunk :=
    List.map_congr_left fun h hh => (f.hunks_exact h hh).hunk_eq
  rw [FileText.patch, hhunks]
  rfl

/-- Reading undoes writing: the patches of a diff are those of the files it was made of, in their
order, whatever the lines contain and whatever else is said about the files. -/
theorem readPatches_renderDiff (files : List DiffFile) (h : (files.map (·.path.text)).Nodup) :
    readPatches (renderDiff files) = files.map DiffFile.patch := by
  have hpatches : (files.map (·.toFileText)).map FileText.patch = files.map DiffFile.patch := by
    rw [List.map_map]
    exact List.map_congr_left fun f _ => f.patch_toFileText
  have hkeys : ((files.map (·.toFileText)).map (·.path.text)).Nodup := by
    rw [List.map_map]
    exact h
  rw [renderDiff, readPatches_renderFiles hkeys, hpatches]

/-- Two files whose lines look like headers: a line that looks like a name is removed and one that
looks like the header of a hunk is added, and the second file has no line feed at its end. -/
def imitatingDiff : List DiffFile :=
  [ { path := ⟨"db/a.sql".toList, by decide, by decide, by decide, by decide, by decide⟩
      status := .modified
      hunks :=
        [ { oldStart := 3
            newStart := 3
            body :=
              [ ⟨.keep, ⟨"diff --git a/x b/x".toList, by decide⟩, false⟩,
                ⟨.remove, ⟨"-- a/comment".toList, by decide⟩, false⟩,
                ⟨.add, ⟨"@@ -1 +1 @@".toList, by decide⟩, false⟩,
                ⟨.add, ⟨"++ b/comment\r".toList, by decide⟩, false⟩ ]
            heading := ⟨" select".toList, by decide⟩
            body_ne := by decide } ]
      announced := some ⟨"a/db/a.sql b/db/a.sql".toList, by decide⟩
      mode := none
      index := some ⟨⟨"0a1".toList, by decide⟩, ⟨"9f8".toList, by decide⟩,
        some ⟨"100644".toList, by decide⟩⟩
      hunks_ne := by simp
      hunks_exact := List.forall_mem_singleton.2 ⟨by decide, by decide⟩ },
    { path := ⟨"b.txt".toList, by decide, by decide, by decide, by decide, by decide⟩
      status := .deleted
      hunks :=
        [ { oldStart := 1
            newStart := 0
            body := [⟨.remove, ⟨"\\".toList, by decide⟩, true⟩]
            heading := ⟨[], by decide⟩
            body_ne := by decide } ]
      announced := none
      mode := some ⟨"100644".toList, by decide⟩
      index := none
      hunks_ne := by simp
      hunks_exact := List.forall_mem_singleton.2 ⟨by decide, by decide⟩ } ]

theorem readPatches_renderDiff_imitating :
    (imitatingDiff.map (·.path.text)).Nodup ∧
      readPatches (renderDiff imitatingDiff) =
        [ ⟨"db/a.sql".toList, .modified,
            [⟨.finite 3, 2, .finite 3, 3, [.finite 4, .finite 5], [.finite 4]⟩]⟩,
          ⟨"b.txt".toList, .deleted, [⟨.finite 1, 1, .finite 0, 0, [], [.finite 1]⟩]⟩ ] :=
  ⟨by decide, readPatches_renderDiff imitatingDiff (by decide)⟩

end Lockstep
