import Lockstep.Proofs.Block.PlainLines

/-!
# Entries that end with their line

The lines of a list may do without commas: an entry ends with its line.  There is one
exception, and it reaches further than a backslash at the end of a line.  Where the last
character of an entry has a backslash before it, the entry stays open and goes on with the
next line.

* `EntryLine.joined`: the entries as they are read, with those that stay open joined to the
  next one.
* `Entries.readLines_entryLine_plain`, `Entries.readLines_entryLine_protected`: what one line
  does; `Entries.readLines_entryLines` is a whole list.
* `Passage.findings_entryLines_iff`: the list means the same as with commas exactly if no
  entry but the last one ends in a protected character, and the last one does not end in a
  carriage return that counts as a part of the end of its line.
-/

namespace Lockstep

/-- A line with an entry behind a leader, and no comma behind it. -/
structure EntryLine where
  leader : Leader
  marks_ne : leader.marks ≠ []
  gap_ne : leader.gap ≠ []
  target : Target
  behind : Blanks

namespace EntryLine

/-- The line as written behind its leader. -/
def body (l : EntryLine) : Text := Target.escape l.target.entry ++ l.behind.text

/-- The line as written. -/
def text (l : EntryLine) : Text := l.leader.text ++ l.body

/-- Whether the last character of the entry has a backslash before it. -/
def endsProtected (l : EntryLine) : Bool := l.target.entry.getLast?.any Target.isSpecial

/-- Whether the entry ends in a carriage return directly before the line feed. -/
def losesReturn (l : EntryLine) : Bool :=
  l.behind.text.isEmpty && l.target.entry.getLast? = some '\r'

/-- The entry as far as it is on its line.  A carriage return before the line feed is not. -/
def kept (l : EntryLine) : Text := if l.losesReturn then l.target.entry.dropLast else l.target.entry

/-- The entries of some lines as they are read, behind an entry `t` that is still open. -/
def joined (t : Text) : List EntryLine → List Text
  | [] => if t = [] then [] else [t]
  | l :: ls =>
    if l.endsProtected then joined (t ++ l.kept) ls else (t ++ l.kept) :: joined [] ls

theorem exists_concat (l : EntryLine) : ∃ u c, l.target.entry = u ++ [c] := by
  obtain ⟨c, hc⟩ :=
    Option.ne_none_iff_exists'.1 (mt List.getLast?_eq_none_iff.1 l.target.entry_ne_nil)
  obtain ⟨u, hu⟩ := List.getLast?_eq_some_iff.1 hc
  exact ⟨u, c, hu⟩

theorem getLast?_of_losesReturn {l : EntryLine} (hl : l.losesReturn = true) :
    l.target.entry.getLast? = some '\r' := by
  rw [losesReturn, Bool.and_eq_true, decide_eq_true_eq] at hl
  exact hl.2

/-- A carriage return is protected, so that an entry with another end is all there. -/
theorem losesReturn_of_plain {l : EntryLine} (hl : l.endsProtected = false) :
    l.losesReturn = false := by
  cases hloses : l.losesReturn with
  | false => rfl
  | true =>
    rw [endsProtected, getLast?_of_losesReturn hloses] at hl
    exact absurd hl (by decide)

theorem feed_not_mem (l : EntryLine) : '\n' ∉ l.body := by
  simp [body, Layout.feed_not_mem_entry, l.behind.line]

theorem escape_concat (u : Text) (c : Char) :
    Target.escape (u ++ [c]) = Target.escape u ++ Target.escapeChar c := by
  simp [Target.escape]

/-- What there is on the line: the entry and blanks, or all of the entry but the carriage return. -/
theorem dropReturn_body (l : EntryLine) :
    (l.losesReturn = false ∧ ∃ blanks : Text, (∀ c ∈ blanks, Text.isBlank c = true) ∧
        Text.dropReturn l.body = Target.escape l.target.entry ++ blanks) ∨
      (l.losesReturn = true ∧
        Text.dropReturn l.body = Target.escape l.target.entry.dropLast ++ ['\\']) := by
  obtain ⟨u, c, hu⟩ := l.exists_concat
  by_cases hbehind : l.behind.text = []
  · by_cases hc : c = '\r'
    · right
      refine ⟨by simp [losesReturn, hbehind, hu, hc], ?_⟩
      rw [body, hbehind, List.append_nil, hu, escape_concat, List.dropLast_concat, hc,
        Text.dropReturn_append_of_ne_nil (by decide)]
      rfl
    · left
      refine ⟨by simp [losesReturn, hu, hc], [], List.forall_mem_nil _, ?_⟩
      have hlast : (Target.escapeChar c).getLast? = some c := by
        unfold Target.escapeChar
        split <;> rfl
      rw [body, hbehind, List.append_nil]
      apply Text.dropReturn_of_getLast?
      rw [hu, escape_concat, List.getLast?_append, hlast]
      simpa using hc
  · left
    refine ⟨by simp [losesReturn, hbehind], Text.dropReturn l.behind.text, ?_, ?_⟩
    · intro c hc
      exact l.behind.blank c ((Text.dropReturn_prefix _).subset hc)
    · rw [body, Text.dropReturn_append_of_ne_nil hbehind]

end EntryLine

namespace Entries

variable {marker here : Nat} {e : Entries} {done : List Obligation} {t : Text}

/-! ## One line -/

theorem readFrom_of_more {line : Text} (hfeed : '\n' ∉ line) {e' : Entries}
    (hread : readLine marker here e .idle line.dropReturn = .more e') (rest : Text) :
    readFrom marker here e (line ++ '\n' :: rest) = readLines marker e' here rest.fileLines := by
  have hfirst : Text.firstLine (line ++ '\n' :: rest) = line.dropReturn := by
    rw [Text.firstLine, Text.lines_append hfeed, List.headD_cons]
  rw [readFrom, hfirst, hread, Text.laterLines_append_feed hfeed]

/-- Blanks at the end of a line are no part of a run. -/
theorem readLine_run_blanks {run : Text} (hrun : run ≠ []) {blanks : Text}
    (hblanks : ∀ d ∈ blanks, Text.isBlank d = true) :
    readLine marker here e (.run run) blanks =
      .more { done := obligation marker (e.buffer ++ run.trimEnd) :: e.done } := by
  have hsign {d : Char} : Text.isBlank d = false → d ∉ blanks := Text.not_mem_blanks hblanks
  obtain ⟨e', hdone, hbuffer, hread⟩ : ∃ e' : Entries, e'.done = e.done ∧ e'.buffer = e.buffer ∧
      readLine marker here e (.run run) (blanks ++ []) =
        readLine marker here e' (.run (run ++ blanks)) [] :=
    readLine_run hrun (hsign (by decide)) (hsign (by decide)) (hsign (by decide)) []
  rw [List.append_nil] at hread
  rw [hread, readLine_run_end, Text.trimEnd_append hblanks, hbuffer, hdone]

/-- Behind a character that needs no backslash the end of the line ends the entry. -/
theorem readLine_plain_end (h : Holds e .idle done t) (u : Text) {c : Char}
    (hc : Target.isSpecial c = false) {blanks : Text}
    (hblanks : ∀ d ∈ blanks, Text.isBlank d = true) :
    readLine marker here e .idle (Target.escape (u ++ [c]) ++ blanks) =
      .more { done := obligation marker (t ++ (u ++ [c])) :: done } := by
  obtain ⟨e₁, place₁, h₁, hread₁⟩ := readLine_escape h u (Target.escapeChar c ++ blanks)
  obtain ⟨e₂, place₂, h₂, -, hrun, hread₂⟩ := readLine_escapeChar h₁ c blanks
  rw [EntryLine.escape_concat, List.append_assoc, hread₁, hread₂]
  cases place₂ with
  | idle => exact absurd rfl (hrun hc)
  | escape => exact absurd rfl h₂.not_escape
  | run chars =>
    have hne : chars ≠ [] := hrun hc
    have hsolid : Text.Solid chars := h₂.solid
    have hentry : e₂.buffer ++ chars = t ++ u ++ [c] := h₂.text_eq
    rw [readLine_run_blanks hne hblanks, hsolid.trimEnd, hentry, h₂.done_eq, List.append_assoc]

/-- Behind a protected character the entry stays open. -/
theorem readLine_protected_end (h : Holds e .idle done t) (u : Text) {c : Char}
    (hc : Target.isSpecial c = true) {blanks : Text}
    (hblanks : ∀ d ∈ blanks, Text.isBlank d = true) :
    ∃ e', Holds e' .idle done (t ++ (u ++ [c])) ∧
      readLine marker here e .idle (Target.escape (u ++ [c]) ++ blanks) = .more e' := by
  obtain ⟨e₁, place₁, h₁, hread₁⟩ := readLine_escape h u (Target.escapeChar c ++ blanks)
  obtain ⟨e₂, place₂, h₂, hidle, -, hread₂⟩ := readLine_escapeChar h₁ c blanks
  obtain rfl := hidle hc
  refine ⟨e₂, by rwa [List.append_assoc] at h₂, ?_⟩
  rw [EntryLine.escape_concat, List.append_assoc, hread₁, hread₂, readLine_blanks hblanks]

/-- And so it does behind a backslash. -/
theorem readLine_backslash_end (h : Holds e .idle done t) (u : Text) :
    ∃ e', Holds e' .idle done (t ++ u) ∧
      readLine marker here e .idle (Target.escape u ++ ['\\']) = .more e' := by
  obtain ⟨e₁, place₁, h₁, hread₁⟩ := readLine_escape h u ['\\']
  refine ⟨(e₁.begin here).settle place₁.chars, ⟨h₁.done_eq, ?_, ?_, Place.noConfusion⟩, ?_⟩
  · exact (List.append_nil _).trans h₁.settle
  · exact fun _ hd => absurd hd List.not_mem_nil
  · rw [hread₁, readLine_cons h₁.not_escape (by decide)]
    rfl

theorem readLines_entryLine (l : EntryLine) {e' : Entries}
    (hread : readLine marker (here + 1) e .idle l.body.dropReturn = .more e') (rest : Text) :
    readLines marker e here (Text.fileLines (l.text ++ '\n' :: rest)) =
      readLines marker e' (here + 1) rest.fileLines := by
  rw [EntryLine.text, List.append_assoc, readLines_leader l.leader l.marks_ne l.gap_ne,
    readFrom_of_more l.feed_not_mem hread]

theorem readLines_entryLine_plain (h : Holds e .idle done t) (l : EntryLine)
    (hl : l.endsProtected = false) (rest : Text) :
    readLines marker e here (Text.fileLines (l.text ++ '\n' :: rest)) =
      readLines marker { done := obligation marker (t ++ l.kept) :: done }
        (here + 1) rest.fileLines := by
  apply readLines_entryLine
  obtain ⟨u, c, hu⟩ := l.exists_concat
  have hc : Target.isSpecial c = false := by simpa [EntryLine.endsProtected, hu] using hl
  have hkeeps := EntryLine.losesReturn_of_plain hl
  rcases l.dropReturn_body with ⟨-, blanks, hblanks, hbody⟩ | ⟨hloses, -⟩
  · rw [hbody, EntryLine.kept, hkeeps, hu, readLine_plain_end h u hc hblanks]
    rfl
  · rw [hkeeps] at hloses
    cases hloses

theorem readLines_entryLine_protected (h : Holds e .idle done t) (l : EntryLine)
    (hl : l.endsProtected = true) (rest : Text) :
    ∃ e', Holds e' .idle done (t ++ l.kept) ∧
      readLines marker e here (Text.fileLines (l.text ++ '\n' :: rest)) =
        readLines marker e' (here + 1) rest.fileLines := by
  obtain ⟨u, c, hu⟩ := l.exists_concat
  have hc : Target.isSpecial c = true := by simpa [EntryLine.endsProtected, hu] using hl
  rcases l.dropReturn_body with ⟨hkeeps, blanks, hblanks, hbody⟩ | ⟨hloses, hbody⟩
  · obtain ⟨e', h', hread⟩ := readLine_protected_end h u hc hblanks
    rw [← hu] at h' hread
    refine ⟨e', by rwa [EntryLine.kept, hkeeps], readLines_entryLine l ?_ rest⟩
    rw [hbody, hread]
  · obtain ⟨e', h', hread⟩ := readLine_backslash_end h l.target.entry.dropLast
    refine ⟨e', by rwa [EntryLine.kept, hloses], readLines_entryLine l ?_ rest⟩
    rw [hbody, hread]

/-! ## All lines -/

/-- The lines of a list give their entries, with those that stay open joined to the next one. -/
theorem readLines_entryLines (h : Holds e .idle done t) (ls : List EntryLine) (closer : Leader)
    (behind : Text) :
    readLines marker e here
        (Text.fileLines (Text.unlines (ls.map EntryLine.text) ++ (closer.text ++ ')' :: behind))) =
      .ok (done.reverse ++ (EntryLine.joined t ls).map (obligation marker), here + ls.length + 1,
        behind.laterLines) := by
  induction ls generalizing here e done t with
  | nil =>
    have hbuffer : e.buffer = t := (List.append_nil _).symm.trans h.text_eq
    rw [List.map_nil, Text.unlines, List.flatMap_nil, List.nil_append, readLines_closer, push,
      hbuffer, h.done_eq, EntryLine.joined]
    by_cases ht : t = [] <;> simp [ht]
  | cons l ls ih =>
    have hlast : here + 1 + ls.length + 1 = here + (l :: ls).length + 1 := by
      rw [List.length_cons]
      omega
    rw [List.map_cons, Text.unlines_cons, List.append_assoc, List.cons_append, EntryLine.joined]
    by_cases hl : l.endsProtected = true
    · obtain ⟨e', h', hread⟩ := readLines_entryLine_protected h l hl _
      rw [hread, ih h', hlast, if_pos hl]
    · rw [readLines_entryLine_plain h l (by simpa using hl), ih holds_start, hlast, if_neg hl]
      simp

end Entries

/-! ## When nothing is joined -/

namespace EntryLine

/-- There are at most as many entries as lines. -/
theorem length_joined_le (t : Text) {ls : List EntryLine} (hne : ls ≠ []) :
    (joined t ls).length ≤ ls.length := by
  induction ls generalizing t with
  | nil => exact absurd rfl hne
  | cons l ls ih =>
    rw [joined]
    cases ls with
    | nil =>
      split
      · rw [joined]
        split <;> simp
      · simp [joined]
    | cons l' ls =>
      have hrest (u : Text) := ih u (List.cons_ne_nil l' ls)
      split
      · exact Nat.le_succ_of_le (hrest _)
      · exact Nat.succ_le_succ (hrest [])

/-- An entry that ends in a carriage return is a pattern: names end in no blank. -/
theorem colon_not_mem_of_losesReturn {l : EntryLine} (hl : l.losesReturn = true) :
    ':' ∉ l.target.entry := by
  have hlast := getLast?_of_losesReturn hl
  cases htarget : l.target with
  | file pattern ne_nil no_colon line => exact no_colon
  | block pattern name trimmed no_colon line name_trimmed name_line =>
    rw [htarget, Target.entry, List.getLast?_append, List.getLast?_cons, Option.some_or] at hlast
    cases hname : name.getLast? with
    | none =>
      rw [hname] at hlast
      cases hlast
    | some c =>
      rw [hname] at hlast
      cases hlast
      obtain ⟨start, hstart⟩ := List.getLast?_eq_some_iff.1 hname
      have hend := Text.trimEnd_of_suffix ⟨start, hstart.symm⟩ (Text.trimEnd_of_trim name_trimmed)
      cases hend

theorem obligation_kept_ne {l : EntryLine} (hl : l.losesReturn = true) (line : Nat) :
    Entries.obligation line l.kept ≠ l.target.obligation line := by
  have hcolon := colon_not_mem_of_losesReturn hl
  have hshort : ':' ∉ l.target.entry.dropLast := fun hmem => hcolon (List.dropLast_subset _ hmem)
  rw [← l.target.obligation_entry, kept, if_pos hl, Entries.obligation, Entries.obligation,
    Text.cutAt?_eq_none hcolon, Text.cutAt?_eq_none hshort]
  intro heq
  have hlength := congrArg (fun o : Obligation => o.pattern.length) heq
  have hpos := List.length_pos_of_ne_nil l.target.entry_ne_nil
  simp only [List.length_dropLast] at hlength
  omega

/-- The last line gives its entry exactly if it does not lose a carriage return. -/
theorem joined_singleton_iff (l : EntryLine) (line : Nat) :
    (joined [] [l]).map (Entries.obligation line) = [l.target.obligation line] ↔
      l.losesReturn = false := by
  have hsingle : joined [] [l] = if l.endsProtected = true ∧ l.kept = [] then [] else [l.kept] := by
    rw [joined, List.nil_append, joined]
    by_cases hl : l.endsProtected = true <;> simp [hl, joined]
  by_cases hl : l.losesReturn = true
  · refine iff_of_false (fun heq => ?_) (by simp [hl])
    rw [hsingle] at heq
    split at heq
    · cases heq
    · rw [List.map_singleton, List.singleton_inj] at heq
      exact obligation_kept_ne hl line heq
  · have hkept : l.kept = l.target.entry := by rw [kept, if_neg hl]
    refine iff_of_true ?_ (by simpa using hl)
    rw [hsingle, hkept, if_neg fun hboth => l.target.entry_ne_nil hboth.2, List.map_singleton,
      l.target.obligation_entry]

/-- The lines give their entries exactly if none is joined to the next one, and the last one does
not lose a carriage return. -/
theorem joined_iff (ls : List EntryLine) (line : Nat) :
    (joined [] ls).map (Entries.obligation line) = ls.map (·.target.obligation line) ↔
      (∀ l ∈ ls.dropLast, l.endsProtected = false) ∧ ∀ l ∈ ls.getLast?, l.losesReturn = false := by
  induction ls with
  | nil => simp [joined]
  | cons l ls ih =>
    cases ls with
    | nil => simpa using joined_singleton_iff l line
    | cons l' ls =>
      rw [List.dropLast_cons_cons, List.forall_mem_cons, List.getLast?_cons_cons, joined, and_assoc,
        ← ih]
      by_cases hl : l.endsProtected = true
      · -- one entry less than there are lines
        refine iff_of_false (fun heq => ?_) (fun hboth => by simp [hl] at hboth)
        have hlength := congrArg List.length heq
        have hle := length_joined_le ([] ++ l.kept) (List.cons_ne_nil l' ls)
        rw [if_pos hl, List.length_map, List.length_map, List.length_cons] at hlength
        omega
      · have hkept : l.kept = l.target.entry := by
          rw [kept, losesReturn_of_plain (by simpa using hl)]
          rfl
        rw [if_neg hl, List.map_cons, List.map_cons, List.nil_append, hkept,
          l.target.obligation_entry, List.cons_inj_right]
        simp [hl]

end EntryLine

namespace Passage

variable {here : Nat} {opened : List OpenBlock} {b : OpenBlock}

/-- A list with an entry a line and without commas means the same as with commas, exactly if no
entry but the last one ends in a protected character and the last one does not end in a carriage
return directly before the line feed. -/
theorem findings_entryLines_iff (before : Passage here (b :: opened)) (l : Leader) (gap : Blanks)
    {ls : List EntryLine} (closer : Leader) {list : SpreadList}
    (hsame : list.targets = ls.map (·.target)) (behind : Text) :
    let marker := before.text.count '\n' + 1
    let meant : Finding := .block ⟨b.name, ⟨b.line, marker⟩, list.targets.map (·.obligation marker)⟩
    findings (before.text ++ closingText l (list.text ++ behind)) =
      before.blocks.map .block ++
        meant :: Scan.findings ⟨marker + list.text.count '\n', behind.laterLines, opened⟩ ∧
    (findings (before.text ++ closingText l (lineList gap (ls.map (·.text)) closer ++ behind)) =
        before.blocks.map .block ++
          meant :: Scan.findings ⟨marker + ls.length + 1, behind.laterLines, opened⟩ ↔
      (∀ l ∈ ls.dropLast, l.endsProtected = false) ∧ ∀ l ∈ ls.getLast?, l.losesReturn = false) := by
  intro marker meant
  have hmarker : marker = here + 1 := by rw [← before.count_text]
  have hmeant : meant =
      .block ⟨b.name, ⟨b.line, here + 1⟩, list.targets.map (·.obligation (here + 1))⟩ := by
    rw [← hmarker]
  have hread : Entries.readFrom (here + 1) (here + 1) {}
      (lineList gap (ls.map (·.text)) closer ++ behind) =
      .ok ((EntryLine.joined [] ls).map (Entries.obligation (here + 1)), here + 1 + ls.length + 1,
        behind.laterLines) := by
    rw [Entries.readFrom_lineList]
    exact Entries.readLines_entryLines Entries.holds_start ls closer behind
  rw [hmeant, hmarker, findings_append, findings_append, List.append_right_inj,
    List.append_right_inj]
  refine ⟨Scan.findings_closing_ok l b (Entries.readFrom_spread list behind), ?_⟩
  rw [hsame, List.map_map, ← EntryLine.joined_iff ls (here + 1)]
  constructor
  · intro hfindings
    obtain ⟨last, rest, hread'⟩ := Scan.readFrom_of_findings hfindings
    rw [hread, Except.ok.injEq, Prod.mk.injEq] at hread'
    exact hread'.1
  · intro hjoined
    rw [hjoined] at hread
    exact Scan.findings_closing_ok l b hread

/-- The last entry may end in a protected character: a comma, here. -/
theorem findings_entryLines_iff_lastProtected :
    let noBlanks : Blanks := ⟨[], List.forall_mem_nil _, Text.feed_not_mem_nil⟩
    let leader : Leader :=
      ⟨[], ['#'], [' '], List.forall_mem_nil _, List.forall_mem_singleton.2 rfl,
      List.forall_mem_singleton.2 rfl, Text.feed_not_mem_nil, by decide⟩
    let line (target : Target) : EntryLine :=
      ⟨leader, List.cons_ne_nil _ _, List.cons_ne_nil _ _, target, noBlanks⟩
    let file : Target := .file ['a', ' ', 'b'] (by decide) (by decide) (by decide)
    let block : Target :=
      .block [] ['n', ','] (by decide) (by decide) (by decide) (by decide) (by decide)
    let list : SpreadList := .more (.sameLine noBlanks) file (.last (.sameLine noBlanks) block)
    list.targets = [line file, line block].map (·.target) ∧
      findings ((Passage.start.opening leader none).text ++
          closingText leader
            (lineList noBlanks ([line file, line block].map (·.text)) leader ++ [])) =
        [.block ⟨none, ⟨1, 2⟩, [⟨['a', ' ', 'b'], none, 2⟩, ⟨[], some ['n', ','], 2⟩]⟩] := by
  intro noBlanks leader line file block list
  have hsame : list.targets = [line file, line block].map (·.target) := rfl
  obtain ⟨-, hexact⟩ :=
    findings_entryLines_iff (Passage.start.opening leader none) leader noBlanks leader
    hsame []
  refine ⟨hsame, (hexact.2 ⟨?_, ?_⟩).trans rfl⟩
  · exact List.forall_mem_singleton.2 rfl
  · rintro l ⟨⟩
    rfl

/-- A pattern that ends in a comma is joined to the pattern on the next line, and is a pattern of
its own where commas stand between the two. -/
theorem entryLines_joined :
    let noBlanks : Blanks := ⟨[], List.forall_mem_nil _, Text.feed_not_mem_nil⟩
    let leader : Leader :=
      ⟨[], ['#'], [' '], List.forall_mem_nil _, List.forall_mem_singleton.2 rfl,
      List.forall_mem_singleton.2 rfl, Text.feed_not_mem_nil, by decide⟩
    let line (target : Target) : EntryLine :=
      ⟨leader, List.cons_ne_nil _ _, List.cons_ne_nil _ _, target, noBlanks⟩
    let first : Target := .file ['a', ','] (by decide) (by decide) (by decide)
    let second : Target := .file ['b'] (by decide) (by decide) (by decide)
    let list : SpreadList := .more (.sameLine noBlanks) first (.last (.sameLine noBlanks) second)
    let before := Passage.start.opening leader none
    findings (before.text ++ closingText leader list.text) =
        [.block ⟨none, ⟨1, 2⟩, [⟨['a', ','], none, 2⟩, ⟨['b'], none, 2⟩]⟩] ∧
      findings (before.text ++ closingText leader
          (lineList noBlanks ([line first, line second].map (·.text)) leader)) =
        [.block ⟨none, ⟨1, 2⟩, [⟨['a', ',', 'b'], none, 2⟩]⟩] := by
  decide

end Passage

end Lockstep
