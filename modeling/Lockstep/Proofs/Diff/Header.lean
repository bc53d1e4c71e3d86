import Lockstep.Proofs.Diff.Render
import Lockstep.Proofs.Utf8

/-!
# Reading header lines back

Every kind of header line is read as what it was written for.  The header of a hunk
has the same meaning for both of its readers (`SpanText.strictHunk?_headerText` and
`SpanText.read?_headerText`), whatever heading stands behind it, and the name of a
file comes back as the path that was written (`PlainPath.sideName_written` and
`PlainPath.decode_text`), with the status that the two names show
(`FileText.finish?_names`).
-/

namespace Lockstep

/-! ## Headers of hunks -/

/-- A number is read up to anything that is not part of a number. -/
theorem NumberText.digits?_append (n : NumberText) {rest : Text}
    (h : ∀ c ∈ rest.head?, c.isDigit = false) :
    Header.digits? (n.1 ++ rest) = some (n.1, rest) := by
  obtain ⟨ds, hds⟩ := n
  rw [Header.isDigits, Bool.and_eq_true, List.all_eq_true] at hds
  have hspan : Text.spanDigits (ds ++ rest) = (ds, rest) := Text.span_append hds.2 h
  cases ds with
  | nil => cases hds.1
  | cons c ds => rw [Header.digits?, hspan]

namespace SpanText

/-- A span is read up to the blank behind it. -/
theorem strictSpan?_text (s : SpanText) (rest : Text) :
    Header.strictSpan? (s.text ++ ' ' :: rest) =
      some (s.start.1, s.count.map (·.1), ' ' :: rest) := by
  obtain ⟨start, count⟩ := s
  have hblank : ∀ c ∈ (' ' :: rest).head?, c.isDigit = false := by simp
  cases count with
  | none => simp [text, Header.strictSpan?, start.digits?_append hblank]
  | some n =>
    have hcomma : ∀ c ∈ (',' :: (n.1 ++ ' ' :: rest)).head?, c.isDigit = false := by simp
    simp [text, Header.strictSpan?, start.digits?_append hcomma, n.digits?_append hblank]

theorem looseSpan?_text (s : SpanText) (rest : Text) :
    Header.looseSpan? (s.text ++ ' ' :: rest) =
      some (s.start.1, s.count.map (·.1), ' ' :: rest) := by
  obtain ⟨start, count⟩ := s
  have hblank : ∀ c ∈ (' ' :: rest).head?, c.isDigit = false := by simp
  cases count with
  | none =>
    have hnone : Header.digits? (' ' :: rest) = none := rfl
    simp [text, Header.looseSpan?, start.digits?_append hblank, Text.after?, hnone]
  | some n =>
    have hcomma : ∀ c ∈ (',' :: (n.1 ++ ' ' :: rest)).head?, c.isDigit = false := by simp
    simp [text, Header.looseSpan?, start.digits?_append hcomma, Text.after?,
      n.digits?_append hblank]

/-- The header of a hunk as it is to be read. -/
def headerRead (old new : SpanText) : Header.HunkHeader :=
  ⟨old.start.1, old.count.map (·.1), new.start.1, new.count.map (·.1)⟩

variable (old new : SpanText) (t : Text)

theorem headerText_append :
    headerText old new ++ t =
      "@@ -".toList ++ (old.text ++ ' ' :: '+' :: (new.text ++ ' ' :: ("@@".toList ++ t))) := by
  simp [headerText]

theorem strictHunk?_headerText :
    Header.strictHunk? (headerText old new ++ t) = some (headerRead old new) := by
  have hplus (rest : Text) : Text.after? " +".toList (' ' :: '+' :: rest) = some rest := rfl
  have hend (rest : Text) : Text.after? " @@".toList (' ' :: ("@@".toList ++ rest)) = some rest :=
    rfl
  rw [headerText_append, Header.strictHunk?]
  simp only [Text.after?_append, strictSpan?_text, hplus, hend, Option.bind_eq_bind,
    Option.bind_some]
  rfl

theorem looseHunk?_headerText :
    Header.looseHunk? (headerText old new ++ t) = some (headerRead old new) := by
  have hstart (rest : Text) : Text.after? ['@', '@'] ("@@ -".toList ++ rest) =
      some (' ' :: '-' :: rest) :=
    rfl
  have hminus (rest : Text) : Header.blanks? (' ' :: '-' :: rest) = some (['-'] ++ rest) := rfl
  have hplus (rest : Text) : Header.blanks? (' ' :: '+' :: rest) = some (['+'] ++ rest) := rfl
  have hend (rest : Text) : Header.blank? (' ' :: rest) = some rest := rfl
  rw [headerText_append, Header.looseHunk?]
  simp only [hstart, hminus, hplus, hend, Text.after?_append, looseSpan?_text, Option.bind_eq_bind,
    Option.bind_some]
  rfl

theorem read?_headerText :
    Header.read? (headerText old new ++ t) = some (.hunk (headerRead old new)) := by
  have hread : Header.read? (headerText old new ++ t) =
      (Header.looseHunk? (headerText old new ++ t)).map .hunk := rfl
  rw [hread, looseHunk?_headerText, Option.map_some]

/-- Only digits, commas and the marks of a header stand in it. -/
theorem not_mem_headerText {c : Char} (hdigit : c.isDigit = false)
    (hmarks : c ∉ ['@', ' ', '-', '+', ',']) : c ∉ headerText old new := by
  simp only [List.mem_cons, List.not_mem_nil, or_false, not_or] at hmarks
  have hnumber (n : NumberText) : c ∉ n.1 := by
    have hdigits := n.2
    rw [Header.isDigits, Bool.and_eq_true, List.all_eq_true] at hdigits
    intro hmem
    rw [hdigits.2 c hmem] at hdigit
    cases hdigit
  have hspan (s : SpanText) : c ∉ s.text := by
    obtain ⟨start, count⟩ := s
    cases count with
    | none => simp [text, hnumber]
    | some n => simp [text, hnumber, hmarks.2.2.2.2]
  simp [headerText, hspan, hmarks]

end SpanText

/-! ## Headers with numbers as usual -/

namespace HunkText

theorem digitsToNat_digits (n : Nat) : Text.digitsToNat (digits n) = n :=
  Nat.ofDigitChars_ten_toDigits

theorem isDigits_digits (n : Nat) : Header.isDigits (digits n) = true := by
  have hdigit : ∀ c ∈ digits n, c.isDigit = true :=
    fun c hc => Nat.isDigit_of_mem_toDigits (by decide) (by decide) hc
  obtain ⟨c, ds, hds⟩ : ∃ c ds, digits n = c :: ds := List.exists_cons_of_ne_nil Nat.toDigits_ne_nil
  rw [Header.isDigits, List.all_eq_true.2 hdigit, hds]
  rfl

end HunkText

namespace SpanText

open HunkText

/-- A start and a count, where there is no need to write 1. -/
def ofNat (start n : Nat) : SpanText where
  start := ⟨digits start, isDigits_digits start⟩
  count := if n = 1 then none else some ⟨digits n, isDigits_digits n⟩

theorem text_ofNat (start n : Nat) : (ofNat start n).text = spanText start n := by
  unfold text ofNat spanText countText?
  by_cases h : n = 1
  · simp [h]
  · simp [h]

theorem lines_ofNat (start n : Nat) : (ofNat start n).lines = n := by
  unfold lines ofNat Header.count
  by_cases h : n = 1
  · simp [h]
  · simp [h, digitsToNat_digits]

end SpanText

/-- The text of a hunk. -/
def HunkText.written (h : HunkText) : WrittenHunk where
  old := .ofNat h.oldStart (oldCount h.edits)
  new := .ofNat h.newStart (newCount h.edits)
  heading := h.heading
  body := h.body
  body_ne := h.body_ne
  old_eq := (SpanText.lines_ofNat _ _).symm
  new_eq := (SpanText.lines_ofNat _ _).symm

theorem HunkText.lines_written (h : HunkText) : h.written.lines = h.lines := by
  have hheader : SpanText.headerText h.written.old h.written.new = h.headerText := by
    simp only [SpanText.headerText, written, SpanText.text_ofNat, headerText]
  rw [WrittenHunk.lines, hheader]
  rfl

/-! ## Modes and hashes -/

theorem ModeText.isMode_append (m : ModeText) (word : String) :
    Header.isMode word (word.toList ++ m.1) = true := by
  rw [Header.isMode, Text.after?_append]
  exact m.2

theorem ModeText.read?_created (m : ModeText) :
    Header.read? ("new file mode ".toList ++ m.1) = some .created := by
  have hdiff : Header.startsWith "diff" ("new file mode ".toList ++ m.1) = false := rfl
  rw [Header.read?, hdiff, m.isMode_append]
  rfl

theorem ModeText.read?_deleted (m : ModeText) :
    Header.read? ("deleted file mode ".toList ++ m.1) = some .deleted := by
  have hdiff : Header.startsWith "diff" ("deleted file mode ".toList ++ m.1) = false := rfl
  have hcreated : Header.isMode "new file mode " ("deleted file mode ".toList ++ m.1) = false := rfl
  rw [Header.read?, hdiff, hcreated, m.isMode_append]
  rfl

/-- A hash is read up to anything that is not part of a hash. -/
theorem HashText.span_append (hash : HashText) {rest : Text}
    (h : ∀ c ∈ rest.head?, c.isAlphanum = false) :
    (hash.1 ++ rest).span Char.isAlphanum = (hash.1, rest) :=
  Text.span_append (List.all_eq_true.1 hash.2.2) h

theorem IndexText.isIndex_line (i : IndexText) : Header.isIndex i.line = true := by
  obtain ⟨old, new, mode⟩ := i
  have hstart (rest : Text) : Text.after? "index".toList ("index ".toList ++ rest) =
      some (' ' :: rest) :=
    rfl
  have hblank (rest : Text) : Header.blank? (' ' :: rest) = some rest := rfl
  have hold (rest : Text) : (old.1 ++ ("..".toList ++ rest)).span Char.isAlphanum =
      (old.1, "..".toList ++ rest) :=
    old.span_append (by simp)
  have hnew : (new.1 ++ (mode.map (' ' :: ·.1)).getD []).span Char.isAlphanum =
      (new.1, (mode.map (' ' :: ·.1)).getD []) :=
    new.span_append (by cases mode <;> simp)
  have hdots (rest : Text) : Text.after? ['.', '.'] ("..".toList ++ rest) = some rest := rfl
  have hmode : (((mode.map (' ' :: ·.1)).getD []).isEmpty ||
      ((Header.blank? ((mode.map (' ' :: ·.1)).getD [])).map
        Header.isDigits).getD false) = true := by
    cases mode with
    | none => rfl
    | some m => simp [hblank, m.2]
  have hsome : (!old.1.isEmpty && !new.1.isEmpty) = true := by
    simp [old.2.1, new.2.1]
  have hline : IndexText.line ⟨old, new, mode⟩ =
      "index ".toList ++
        (old.1 ++ ("..".toList ++ (new.1 ++ (mode.map (' ' :: ·.1)).getD []))) := rfl
  rw [hline, Header.isIndex, hstart, Option.bind_eq_bind, Option.bind_some, hblank,
    Option.bind_eq_bind, Option.bind_some, hold]
  dsimp only
  rw [hdots, Option.bind_some, hnew]
  dsimp only
  rw [hsome, hmode]
  rfl

theorem IndexText.read?_line (i : IndexText) : Header.read? i.line = some .about := by
  have hdiff : Header.startsWith "diff" i.line = false := rfl
  have hcreated : Header.isMode "new file mode " i.line = false := rfl
  have hdeleted : Header.isMode "deleted file mode " i.line = false := rfl
  rw [Header.read?, hdiff, hcreated, hdeleted, i.isIndex_line, Bool.or_true]
  rfl

/-! ## Names -/

namespace Header

theorem shape?_eq_none {shape t : Text} (hshape : ' ' ∈ shape) (ht : t.Solid) :
    shape? shape t = none := by
  induction shape generalizing t with
  | nil => cases hshape
  | cons s shape ih =>
    cases t with
    | nil => rfl
    | cons c t =>
      have hc : Text.isBlank c = false := ht c List.mem_cons_self
      rw [shape?]
      rcases List.mem_cons.1 hshape with rfl | hshape
      · simp [hc]
      · rw [ih hshape fun d hd => ht d (List.mem_cons_of_mem _ hd), ite_self]

/-- There is no time stamp, and no tab, where there is no blank. -/
theorem beforeStamp?_eq_none {t : Text} (ht : t.Solid) : beforeStamp? t = none := by
  induction t with
  | nil => rfl
  | cons c t ih =>
    have htab : c ≠ '\t' := by
      rintro rfl
      cases ht '\t' List.mem_cons_self
    have hstamp : isStamp (c :: t) = false := by
      rw [isStamp, shape?_eq_none (by decide) ht]
    rw [beforeStamp?, hstamp, ih fun d hd => ht d (List.mem_cons_of_mem _ hd)]
    simp [htab]

theorem dropStartQuote_eq_self {t : Text} (h : t.Unquoted) :
    dropStartQuote t = t := by
  unfold dropStartQuote
  split
  · exact absurd rfl (h '\\' List.mem_cons_self).2
  · next c rest _ => simp [(h c List.mem_cons_self).1]
  · rfl

theorem dropEndQuote_eq_self {t : Text} (h : t.Unquoted) :
    dropEndQuote t = t := by
  have hmem {c : Char} (hc : c ∈ t.reverse) : isQuote c = false := (h c (List.mem_reverse.1 hc)).1
  unfold dropEndQuote
  split
  · next c rest heq => simp [hmem (c := c) (by simp [heq])]
  · next c rest _ heq => simp [hmem (c := c) (by simp [heq])]
  · next heq => exact (List.reverse_eq_nil_iff.1 heq).symm

/-- A name without blanks, quotes and backslashes is read up to its side. -/
theorem sideName_eq {signs name : Text} (hsigns : ∀ c ∈ signs, (c = '-' || c = '+') = true)
    (hsolid : name.Solid) (hquote : name.Unquoted) :
    sideName (signs ++ ' ' :: name) = dropSide name := by
  have hdrop : (signs ++ ' ' :: name).dropWhile (fun c => c = '-' || c = '+') = ' ' :: name := by
    rw [List.dropWhile_append_of_pos hsigns]
    rfl
  have htrim : Text.trim (' ' :: name) = name := by
    have hstart : Text.trimStart (' ' :: name) = Text.trimStart name := rfl
    rw [Text.trim, hstart, hsolid.trimStart, hsolid.trimEnd]
  rw [sideName, hdrop, htrim, beforeStamp?_eq_none hsolid]
  dsimp only
  rw [dropStartQuote_eq_self hquote, dropEndQuote_eq_self hquote]

/-- Such a name is read without the letter of its side. -/
theorem sideName_side {signs : Text} (hsigns : ∀ c ∈ signs, (c = '-' || c = '+') = true)
    {side : Char} (hside : side = 'a' ∨ side = 'b') {name : Text} (hsolid : name.Solid)
    (hquote : name.Unquoted) : sideName (signs ++ ' ' :: side :: '/' :: name) = name := by
  have hletter : Text.Solid [side, '/'] ∧ Text.Unquoted [side, '/'] := by
    rcases hside with rfl | rfl <;> decide
  have hsolid' : Text.Solid ([side, '/'] ++ name) :=
    fun c hc => (List.mem_append.1 hc).elim (hletter.1 c) (hsolid c)
  have hquote' : Text.Unquoted ([side, '/'] ++ name) :=
    fun c hc => (List.mem_append.1 hc).elim (hletter.2 c) (hquote c)
  refine (sideName_eq hsigns hsolid' hquote').trans ?_
  rcases hside with rfl | rfl <;> rfl

end Header

namespace PathName

theorem bytes_plain {t : Text} (h : '\\' ∉ t) : bytes .plain t = Utf8.encode t := by
  induction t with
  | nil => rfl
  | cons c t ih =>
    rw [List.mem_cons, not_or] at h
    rw [bytes, if_neg (Ne.symm h.1), ih h.2]
    rfl

theorem unquote_eq_self {t : Text} (h : ∀ c ∈ t, Header.isQuote c = false) : unquote t = t := by
  cases t with
  | nil => rfl
  | cons c t =>
    have hc := h c List.mem_cons_self
    simp only [Header.isQuote, Bool.or_eq_false_iff, decide_eq_false_iff_not] at hc
    simp [unquote, hc.1, hc.2]

theorem dropPrefix_eq_self {t : Text} (h : (Text.units t)[1]? ≠ some '/'.toNat) :
    dropPrefix t = t := by
  unfold dropPrefix
  split
  · next c rest =>
    refine if_neg fun hc => h ?_
    -- A character of one unit leaves the second unit to the slash.
    have hunits : Text.unitsOf c = [c.toNat] := if_pos hc
    have hslash : Text.unitsOf '/' = ['/'.toNat] := rfl
    rw [Text.units, List.flatMap_cons, List.flatMap_cons, hunits, hslash]
    rfl
  · rfl

/-- A path without blanks, quotes and backslashes stands for itself, except for what looks like a
side. -/
theorem decode_of_solid {t : Text} (hsolid : t.Solid) (hquote : t.Unquoted) (hname : t ≠ devNull) :
    decode t = dropPrefix t := by
  have hslash : '\\' ∉ t := fun hmem => (hquote _ hmem).2 rfl
  rw [decode, hsolid.trim]
  simp only [hname, if_false]
  rw [unquote_eq_self fun c hc => (hquote c hc).1, bytes_plain hslash, Utf8.decode_encode]

end PathName

namespace PlainPath

theorem ne_devNull (p : PlainPath) : p.text ≠ PathName.devNull := fun h => p.relative (h ▸ rfl)

/-- A plain path stands for itself. -/
theorem decode_text (p : PlainPath) : PathName.decode p.text = p.text := by
  rw [PathName.decode_of_solid p.solid p.unquoted p.ne_devNull,
    PathName.dropPrefix_eq_self p.unprefixed]

theorem pathOf?_text (p : PlainPath) : pathOf? (some p.text) = some p.text := by
  have hdecode := p.decode_text
  cases htext : p.text with
  | nil => exact absurd htext p.ne_nil
  | cons c t => exact congrArg some (htext ▸ hdecode)

/-- The name of a file on one side as it is to be read. -/
def nameRead (p : PlainPath) (absent : Bool) : Text := if absent then PathName.devNull else p.text

/-- A name is read without the letter of its side. -/
theorem sideName_written (p : PlainPath) {signs : Text}
    (hsigns : ∀ c ∈ signs, (c = '-' || c = '+') = true) {side : Char}
    (hside : side = 'a' ∨ side = 'b') (absent : Bool) :
    Header.sideName (signs ++ ' ' :: p.written side absent) = p.nameRead absent := by
  cases absent with
  | true =>
    have hdevNull : Text.Solid PathName.devNull ∧ Text.Unquoted PathName.devNull := by decide
    exact Header.sideName_eq hsigns hdevNull.1 hdevNull.2
  | false => exact Header.sideName_side hsigns hside p.solid p.unquoted

end PlainPath

namespace FileText

/-- The name on the old side as it is to be read. -/
def oldName (f : FileText) : Text := f.path.nameRead (f.status = .added)

/-- The name on the new side as it is to be read. -/
def newName (f : FileText) : Text := f.path.nameRead (f.status = .deleted)

theorem read?_oldText (f : FileText) :
    Header.read? ("--- ".toList ++ f.oldText) = some (.old f.oldName) := by
  have hname : Header.sideName ("---".toList ++ ' ' :: f.oldText) = f.oldName :=
    f.path.sideName_written (by simp) (.inl rfl) _
  rw [← hname]
  rfl

theorem read?_newText (f : FileText) :
    Header.read? ("+++ ".toList ++ f.newText) = some (.new f.newName) := by
  have hname : Header.sideName ("+++".toList ++ ' ' :: f.newText) = f.newName :=
    f.path.sideName_written (by simp) (.inr rfl) _
  rw [← hname]
  rfl

/-- A file with the two names that were written gets its path and its status from them. -/
theorem finish?_names (f : FileText) (hunks : List HunkDraft) :
    FileDraft.finish? ⟨some f.oldName, some f.newName, hunks⟩ =
      some ⟨f.path.text, f.status, hunks.reverse.map HunkDraft.finish⟩ := by
  have hpath := f.path.pathOf?_text
  have hnull : pathOf? (some PathName.devNull) = some PathName.devNull := by decide
  have hne := f.path.ne_devNull
  obtain ⟨c, t, htext⟩ := List.exists_cons_of_ne_nil f.path.ne_nil
  unfold FileDraft.finish? oldName newName PlainPath.nameRead
  rw [htext] at hpath hne ⊢
  cases f.status <;> simp [hpath, hnull, hne]

end FileText

end Lockstep
