import Lockstep.Proofs.Block.RoundTrip

/-!
# Lists that run over several lines

The list of a closing marker may stand on the line of the marker, or go on behind its
opening parenthesis and behind every comma on a later line with a comment leader.  A
`SpreadList` is such a list with all its breaks, and `SpreadList.text` writes it.

* `Gap`: what may stand behind the opening parenthesis and behind a comma.
* `Entries.readFrom_gap`: a gap is passed over, and only the number of the line at hand
  shows how many lines it took.
* `Entries.readFrom_spread`: a list gives its targets back, whatever its gaps are.
* `Passage`: a text up to a place between two lines, with the blocks that are open there.
* `Passage.findings_closed`: the block that a list closes has the targets of the list as
  its obligations, all of them on the line of the marker.
-/

namespace Lockstep

/-! ## Written lists -/

/-- What stands behind the opening parenthesis of a list or behind a comma in it. -/
inductive Gap where
  /-- The list goes on on the same line. -/
  | sameLine (blanks : Blanks)
  /-- The list goes on on a later line, behind a leader.  The lines between are blank, or have
  nothing but a leader. -/
  | laterLine (blanks : Blanks) (skipped : List Leader) (leader : Leader)
      (marks_ne : leader.marks ≠ [])
      (gap_ne : leader.gap ≠ [])

/-- The gap as written. -/
def Gap.text : Gap → Text
  | sameLine blanks => blanks.text
  | laterLine blanks skipped leader .. =>
    blanks.text ++ '\n' :: (Text.unlines (skipped.map Leader.text) ++ leader.text)

/-- A list that is not empty, with what stands between its entries. -/
inductive SpreadList where
  /-- The last entry. -/
  | last (gap : Gap) (target : Target)
  /-- The last entry, with a comma behind it. -/
  | lastComma (gap : Gap) (target : Target) (behind : Gap)
  /-- An entry with more entries behind it. -/
  | more (gap : Gap) (target : Target) (rest : SpreadList)

namespace SpreadList

/-- The entries of a list. -/
def targets : SpreadList → List Target
  | last _ target => [target]
  | lastComma _ target _ => [target]
  | more _ target rest => target :: rest.targets

/-- The list as written behind its opening parenthesis. -/
def text : SpreadList → Text
  | last gap target => gap.text ++ (Target.escape target.entry ++ [')'])
  | lastComma gap target behind =>
    gap.text ++ (Target.escape target.entry ++ ',' :: (behind.text ++ [')']))
  | more gap target rest => gap.text ++ (Target.escape target.entry ++ ',' :: rest.text)

/-- The closing marker with its list, as written. -/
def closing (l : Leader) (list : SpreadList) : Text := closingText l list.text

end SpreadList

/-! ## Leaders of later lines -/

namespace Marker

theorem dropLeader_prefix {s t : Text} (h : s <+: t) : dropLeader s <+: dropLeader t := by
  have hdrop (p : Char → Bool) {a b : Text} (hab : a <+: b) : a.dropWhile p <+: b.dropWhile p := by
    obtain ⟨c, rfl⟩ := hab
    rw [List.dropWhile_append]
    split
    · next hempty => rw [List.isEmpty_iff.1 hempty]; exact List.nil_prefix
    · exact List.prefix_append _ _
  exact hdrop _ (hdrop _ h)

/-- A line with nothing but a leader is blank behind the leader. -/
theorem isBlank_of_mem_dropLeader (l : Leader) :
    ∀ c ∈ dropLeader l.text, Text.isBlank c = true := by
  by_cases hmarks : l.marks = []
  · have hnone : dropLeader l.text = [] := by
      rw [dropLeader, Leader.text, hmarks, List.nil_append, ← List.append_nil l.gap,
        Text.trimStart_append l.indent_blank, Text.trimStart_append l.gap_blank]
      rfl
    rw [hnone]
    exact fun c hc => absurd hc List.not_mem_nil
  · have hhead : ∀ c ∈ l.gap.head?, leaders.contains c = false := fun c hc =>
      not_leader_of_blank (l.gap_blank c (List.mem_of_mem_head? hc))
    rw [Leader.text, dropLeader_marks l hmarks hhead]
    exact l.gap_blank

end Marker

/-! ## Reading on from the middle of a line -/

namespace Entries

variable {marker here : Nat} {e : Entries} {done : List Obligation}

/-- Reads a list on from the middle of line `here`: what `read` does behind the parenthesis. -/
def readFrom (marker here : Nat) (e : Entries) (t : Text) :
    Except BlockError (List Obligation × Nat × List Text) :=
  match readLine marker here e .idle t.firstLine with
  | .more e => readLines marker e here t.laterLines
  | .closed obligations => .ok (obligations, here, t.laterLines)
  | .failed error => .error error

theorem read_eq_readFrom (t : Text) :
    read marker ('(' :: t.firstLine) t.laterLines = readFrom marker marker {} t := by
  have hopen : Text.trimStart ('(' :: t.firstLine) = '(' :: t.firstLine :=
    Text.trimStart_cons (by decide) _
  simp only [read, hopen]
  rfl

theorem readLine_blank {c : Char} (h : Text.isBlank c = true) (t : Text) :
    readLine marker here e .idle (c :: t) = readLine marker here e .idle t := by
  rw [readLine] <;> simp [Place.chars, h]

theorem readLine_blanks {t : Text} (h : ∀ c ∈ t, Text.isBlank c = true) :
    readLine marker here e .idle t = .more e := by
  induction t with
  | nil => rfl
  | cons c t ih =>
    rw [readLine_blank (h c List.mem_cons_self), ih fun d hd => h d (List.mem_cons_of_mem c hd)]

theorem readFrom_blanks {blanks : Text} (hblank : ∀ c ∈ blanks, Text.isBlank c = true)
    (hline : '\n' ∉ blanks) (t : Text) :
    readFrom marker here e (blanks ++ t) = readFrom marker here e t := by
  induction blanks with
  | nil => rfl
  | cons c blanks ih =>
    rw [List.mem_cons, not_or] at hline
    rw [← ih (fun d hd => hblank d (List.mem_cons_of_mem c hd)) hline.2, List.cons_append]
    rcases Text.lines_cons_cases (Ne.symm hline.1) (blanks ++ t) with h | ⟨-, h⟩
    · simp only [readFrom, Text.laterLines, h, List.tail_cons]
      rw [Text.firstLine, h, List.headD_cons, readLine_blank (hblank c List.mem_cons_self)]
    · -- The blank was the carriage return of the end of the line.
      simp only [readFrom, Text.laterLines, Text.firstLine, h]

theorem readFrom_feed (t : Text) :
    readFrom marker here e ('\n' :: t) = readLines marker e here t.fileLines := by
  rw [readFrom, Text.firstLine_feed, Text.laterLines_feed]
  rfl

/-! ## Gaps -/

theorem readLines_skipped (skipped : List Leader) (t : Text) :
    readLines marker e here (Text.fileLines (Text.unlines (skipped.map Leader.text) ++ t)) =
      readLines marker e (here + skipped.length) t.fileLines := by
  induction skipped generalizing here with
  | nil => rfl
  | cons l skipped ih =>
    have hblank : ∀ c ∈ Marker.dropLeader (Text.dropReturn l.text), Text.isBlank c = true := by
      intro c hc
      exact Marker.isBlank_of_mem_dropLeader l c
        ((Marker.dropLeader_prefix (Text.dropReturn_prefix l.text)).subset hc)
    have hnext : here + (l :: skipped).length = here + 1 + skipped.length := by
      rw [List.length_cons]
      omega
    rw [List.map_cons, Text.unlines_cons, List.append_assoc, List.cons_append,
      Text.fileLines_append (Layout.leader_feed_not_mem l), readLines, readLine_blanks hblank,
      hnext]
    exact ih

theorem readLines_leader (l : Leader) (hmarks : l.marks ≠ []) (hgap : l.gap ≠ []) (t : Text) :
    readLines marker e here (Text.fileLines (l.text ++ t)) = readFrom marker (here + 1) e t := by
  have hstart : l.text ++ t = (l.indent ++ l.marks) ++ (l.gap ++ t) := by simp [Leader.text]
  have hfeed : '\n' ∉ l.indent ++ l.marks := fun hmem =>
    Layout.leader_feed_not_mem l
      (by rw [Leader.text, ← List.append_assoc]; exact List.mem_append_left _ hmem)
  -- The line is cut behind its marks, where no carriage return can be.
  have hlast : (l.indent ++ l.marks).getLast? ≠ some '\r' := by
    cases hmark : l.marks.getLast? with
    | none => exact absurd (List.getLast?_eq_none_iff.1 hmark) hmarks
    | some m =>
      have hm := l.marks_mem m (List.mem_of_getLast? hmark)
      rw [List.getLast?_append, hmark, Option.some_or]
      rintro ⟨⟩
      exact absurd hm (by decide)
  -- The blank behind the marks keeps the entry from being taken for a part of them.
  have hhead : ∀ c ∈ (Text.firstLine (l.gap ++ t)).head?, Marker.leaders.contains c = false := by
    obtain ⟨g, gap, hg⟩ := List.exists_cons_of_ne_nil hgap
    have hne : g ≠ '\n' := fun heq => l.gap_line (by simp [hg, heq])
    rw [hg, List.cons_append, Text.firstLine]
    rcases Text.lines_cons_cases hne (gap ++ t) with h | ⟨hempty, h⟩
    · rw [h]
      rintro c ⟨⟩
      exact Marker.not_leader_of_blank (l.gap_blank g (by simp [hg]))
    · rw [h, ← Text.firstLine, hempty]
      simp
  rw [hstart, Text.fileLines_start (by simp [hmarks]) hfeed hlast, readLines, List.append_assoc,
    Marker.dropLeader_marks l hmarks hhead, ← readFrom_blanks l.gap_blank l.gap_line]
  rfl

/-- A gap is passed over. -/
theorem readFrom_gap (gap : Gap) (t : Text) :
    readFrom marker here e (gap.text ++ t) = readFrom marker (here + gap.text.count '\n') e t := by
  cases gap with
  | sameLine blanks =>
    rw [Gap.text, List.count_eq_zero_of_not_mem blanks.line,
      readFrom_blanks blanks.blank blanks.line]
    rfl
  | laterLine blanks skipped leader marks_ne gap_ne =>
    have hskipped : (Text.unlines (skipped.map Leader.text)).count '\n' = skipped.length := by
      rw [Text.count_unlines, List.length_map]
      exact List.forall_mem_map.2 fun l _ => Layout.leader_feed_not_mem l
    have hbreaks : here + (Gap.laterLine blanks skipped leader marks_ne gap_ne).text.count '\n' =
        here + skipped.length + 1 := by
      simp only [Gap.text, List.count_append, List.count_cons_self, hskipped,
        List.count_eq_zero_of_not_mem blanks.line,
        List.count_eq_zero_of_not_mem (Layout.leader_feed_not_mem leader)]
      omega
    rw [hbreaks, Gap.text, List.append_assoc, readFrom_blanks blanks.blank blanks.line,
      List.cons_append, readFrom_feed, List.append_assoc, readLines_skipped,
      readLines_leader leader marks_ne gap_ne]

/-! ## Entries -/

theorem readFrom_comma (target : Target) (t : Text) :
    readFrom marker here { done := done } (Target.escape target.entry ++ ',' :: t) =
      readFrom marker here { done := target.obligation marker :: done } t := by
  have hstart : Target.escape target.entry ++ ',' :: t =
      (Target.escape target.entry ++ [',']) ++ t := by
    simp
  have hfeed : '\n' ∉ Target.escape target.entry ++ [','] := by simp [Layout.feed_not_mem_entry]
  rw [readFrom, hstart, Text.firstLine_append hfeed (by simp),
    Text.laterLines_append hfeed (by simp), List.append_assoc, List.singleton_append,
    readLine_entry_comma]
  rfl

theorem readFrom_close (target : Target) (t : Text) :
    readFrom marker here { done := done } (Target.escape target.entry ++ ')' :: t) =
      .ok ((target.obligation marker :: done).reverse, here, t.laterLines) := by
  have hstart : Target.escape target.entry ++ ')' :: t =
      (Target.escape target.entry ++ [')']) ++ t := by
    simp
  have hfeed : '\n' ∉ Target.escape target.entry ++ [')'] := by simp [Layout.feed_not_mem_entry]
  rw [readFrom, hstart, Text.firstLine_append hfeed (by simp),
    Text.laterLines_append hfeed (by simp), List.append_assoc, List.singleton_append,
    readLine_entry_close]

/-- Behind a comma the list may end at once. -/
theorem readFrom_end (t : Text) :
    readFrom marker here { done := done } (')' :: t) = .ok (done.reverse, here, t.laterLines) := by
  have hstart : ')' :: t = [')'] ++ t := rfl
  have hfeed : '\n' ∉ [')'] := by decide
  rw [readFrom, hstart, Text.firstLine_append hfeed (by decide),
    Text.laterLines_append hfeed (by decide)]
  rfl

/-- A list gives its targets back, whatever its gaps are, and the lines behind it are left. -/
theorem readFrom_spread (list : SpreadList) (behind : Text) :
    readFrom marker here { done := done } (list.text ++ behind) =
      .ok (done.reverse ++ list.targets.map (·.obligation marker), here + list.text.count '\n',
        behind.laterLines) := by
  have hentry (target : Target) : List.count '\n' (Target.escape target.entry) = 0 :=
    List.count_eq_zero_of_not_mem (Layout.feed_not_mem_entry target)
  induction list generalizing here done with
  | last gap target =>
    rw [SpreadList.text, List.append_assoc, List.append_assoc, readFrom_gap, List.singleton_append,
      readFrom_close]
    simp [SpreadList.targets, hentry]
  | lastComma gap target rest =>
    rw [SpreadList.text, List.append_assoc, List.append_assoc, readFrom_gap, List.cons_append,
      readFrom_comma, List.append_assoc, readFrom_gap, List.singleton_append, readFrom_end]
    simp [SpreadList.targets, hentry, Nat.add_assoc]
  | more gap target rest ih =>
    rw [SpreadList.text, List.append_assoc, List.append_assoc, readFrom_gap, List.cons_append,
      readFrom_comma, ih]
    simp [SpreadList.targets, hentry, Nat.add_assoc]

end Entries

/-! ## Passages -/

namespace Scan

variable {here : Nat} {opened : List OpenBlock}

/-- A closing marker in a block, with the list that starts behind it. -/
theorem next?_closing (l : Leader) (list : Text) (b : OpenBlock) :
    next? ⟨here, Text.fileLines (closingText l list), b :: opened⟩ =
      some (close (here + 1) ('(' :: list.firstLine) list.laterLines (b :: opened)) := by
  have hstart : closingText l list = (l.text ++ (Marker.closing ++ ['('])) ++ list := by
    simp [closingText]
  have hfeed : '\n' ∉ l.text ++ (Marker.closing ++ ['(']) := by
    have hword : '\n' ∉ Marker.closing ++ ['('] := by decide
    simp only [List.mem_append, Layout.leader_feed_not_mem, false_or]
    simpa using hword
  have hlines : Text.fileLines (closingText l list) =
      (l.text ++ (Marker.closing ++ '(' :: list.firstLine)) :: list.laterLines := by
    rw [hstart, Text.fileLines_start (by simp) hfeed (by simp)]
    simp
  rw [hlines]
  simp [next?, advance, Marker.readOpening_closing, Marker.afterClosing?_closing, openOn]

/-- A list that can be read ends the innermost block, and the scan goes on behind the list. -/
theorem findings_closing_ok (l : Leader) {list : Text} (b : OpenBlock)
    {obligations : List Obligation} {last : Nat} {rest : List Text}
    (hread : Entries.readFrom (here + 1) (here + 1) {} list = .ok (obligations, last, rest)) :
    findings ⟨here, Text.fileLines (closingText l list), b :: opened⟩ =
      .block ⟨b.name, ⟨b.line, here + 1⟩, obligations⟩ :: findings ⟨last, rest, opened⟩ := by
  rw [findings_eq, next?_closing]
  simp [close, Entries.read_eq_readFrom, hread]

/-- A list in error ends the scan. -/
theorem findings_closing_error (l : Leader) {list : Text} (b : OpenBlock) {error : BlockError}
    (hread : Entries.readFrom (here + 1) (here + 1) {} list = .error error) :
    findings ⟨here, Text.fileLines (closingText l list), b :: opened⟩ =
      [.broken [error]] := by
  rw [findings_eq, next?_closing]
  simp only [close, Entries.read_eq_readFrom, hread]
  rfl

/-- Where a block is found at a closing marker, its obligations have been read from the list. -/
theorem readFrom_of_findings {l : Leader} {list : Text} {b : OpenBlock} {name : Option Text}
    {range : LineRange} {obligations : List Obligation} {behind : List Finding}
    (h : findings ⟨here, Text.fileLines (closingText l list), b :: opened⟩ =
      .block ⟨name, range, obligations⟩ :: behind) :
    ∃ last rest, Entries.readFrom (here + 1) (here + 1) {} list =
      .ok (obligations, last, rest) := by
  cases hread : Entries.readFrom (here + 1) (here + 1) {} list with
  | error error =>
    rw [findings_closing_error l b hread] at h
    cases h
  | ok read =>
    obtain ⟨obligations', last, rest⟩ := read
    rw [findings_closing_ok l b hread] at h
    cases h
    exact ⟨last, rest, rfl⟩

theorem findings_spread (l : Leader) (list : SpreadList) (b : OpenBlock) (behind : Text) :
    findings ⟨here, Text.fileLines (list.closing l ++ behind), b :: opened⟩ =
      .block ⟨b.name, ⟨b.line, here + 1⟩, list.targets.map (·.obligation (here + 1))⟩ ::
        findings ⟨here + 1 + list.text.count '\n', behind.laterLines, opened⟩ := by
  have hstart : list.closing l ++ behind = closingText l (list.text ++ behind) := by
    simp [SpreadList.closing, closingText]
  rw [hstart]
  exact findings_closing_ok l b (Entries.readFrom_spread list behind)

end Scan

/-- A text up to a place between two lines: `here` lines that a scan gets through, with the blocks
that are open behind them, the innermost first. -/
inductive Passage : (here : Nat) → (opened : List OpenBlock) → Type where
  /-- The start of a file. -/
  | start : Passage 0 []
  /-- A line without markers. -/
  | filler {here : Nat} {opened : List OpenBlock} (before : Passage here opened) (line : Filler) :
      Passage (here + 1) opened
  /-- The line that opens a block. -/
  | opening {here : Nat} {opened : List OpenBlock} (before : Passage here opened) (l : Leader)
      (name : Option BlockName) : Passage (here + 1) (⟨name.map (·.text), here + 1⟩ :: opened)
  /-- The lines that close the innermost block, with anything behind the list on its last line. -/
  | closing {here : Nat} {opened : List OpenBlock} {b : OpenBlock}
      (before : Passage here (b :: opened))
      (l : Leader) (list : SpreadList) (tail : Text) (tail_line : '\n' ∉ tail) :
      Passage (here + 1 + list.text.count '\n') opened

namespace Passage

variable {here : Nat} {opened : List OpenBlock} {b : OpenBlock}

/-- The text of a passage. -/
def text : {here : Nat} → {opened : List OpenBlock} → Passage here opened → Text
  | _, _, start => []
  | _, _, filler before line => before.text ++ (line.text ++ ['\n'])
  | _, _, opening before l name => before.text ++ (openingLine l name ++ ['\n'])
  | _, _, closing before l list tail _ => before.text ++ (list.closing l ++ (tail ++ ['\n']))

/-- The blocks that end in a passage, in the order in which they end. -/
def blocks : {here : Nat} → {opened : List OpenBlock} → Passage here opened → List Block
  | _, _, start => []
  | _, _, filler before _ => before.blocks
  | _, _, opening before _ _ => before.blocks
  | _, _, @closing here _ b before _ list _ _ =>
    let marker := here + 1
    before.blocks ++
      [{ name := b.name, range := ⟨b.line, marker⟩,
         obligations := list.targets.map (·.obligation marker) }]

/-- The number of a passage is the number of its lines. -/
theorem count_text (before : Passage here opened) : before.text.count '\n' = here := by
  induction before with
  | start => rfl
  | filler before line ih => simp [text, ih, List.count_eq_zero_of_not_mem line.text_line]
  | opening before l name ih =>
    simp [text, ih, List.count_eq_zero_of_not_mem (Layout.feed_not_mem_openingLine l name)]
  | closing before l list tail tail_line ih =>
    have hword : List.count '\n' Marker.closing = 0 := by decide
    have hleader : List.count '\n' l.text = 0 :=
      List.count_eq_zero_of_not_mem (Layout.leader_feed_not_mem l)
    have htail : List.count '\n' tail = 0 := List.count_eq_zero_of_not_mem tail_line
    have hopen : List.count '\n' ('(' :: list.text) = List.count '\n' list.text :=
      List.count_cons_of_ne (by decide)
    simp only [text, SpreadList.closing, closingText, List.count_append, List.count_singleton_self,
      ih, hword, hleader, htail, hopen]
    omega

/-- A scan gets through a passage, whatever follows. -/
theorem findings_append (before : Passage here opened) (behind : Text) :
    findings (before.text ++ behind) =
      before.blocks.map .block ++ Scan.findings ⟨here, behind.fileLines, opened⟩ := by
  induction before generalizing behind with
  | start => rfl
  | filler before line ih =>
    rw [text, List.append_assoc, List.append_assoc, ih, List.singleton_append,
      Text.fileLines_append line.text_line, Scan.findings_filler, blocks]
  | opening before l name ih =>
    rw [text, List.append_assoc, List.append_assoc, ih, List.singleton_append,
      Text.fileLines_append (Layout.feed_not_mem_openingLine l name), Layout.dropReturn_openingLine,
      Scan.findings_openingLine, blocks]
  | closing before l list tail tail_line ih =>
    rw [text, List.append_assoc, List.append_assoc, ih, List.append_assoc, List.singleton_append,
      Scan.findings_spread, Text.laterLines_append_feed tail_line, blocks]
    simp

/-- A list means the same however it is spread over lines: the block that it closes has the targets
of the list as its obligations, in their order, and all of them are on the line of the marker.
Nothing that was found before depends on the list, and a scan goes on with the line behind it. -/
theorem findings_closed (before : Passage here (b :: opened)) (l : Leader) (list : SpreadList)
    (behind : Text) :
    let marker := before.text.count '\n' + 1
    findings (before.text ++ (list.closing l ++ behind)) =
      before.blocks.map .block ++
        .block ⟨b.name, ⟨b.line, marker⟩, list.targets.map (·.obligation marker)⟩ ::
          Scan.findings ⟨marker + list.text.count '\n', behind.laterLines, opened⟩ := by
  intro marker
  have hmarker : marker = here + 1 := by rw [← before.count_text]
  rw [hmarker, findings_append, Scan.findings_spread]

example :
    let leader : Leader := ⟨[' '], ['#'], [' '], List.forall_mem_singleton.2 rfl,
      List.forall_mem_singleton.2 rfl, List.forall_mem_singleton.2 rfl, by decide, by decide⟩
    let gap : Gap := .laterLine ⟨[], List.forall_mem_nil _, Text.feed_not_mem_nil⟩ [leader] leader
      (List.cons_ne_nil _ _) (List.cons_ne_nil _ _)
    let file : Target := .file [' ', ','] (by decide) (by decide) (by decide)
    let list : SpreadList := .more gap file (.lastComma gap file gap)
    findings ((Passage.start.opening leader none).text ++ list.closing leader) =
      [.block ⟨none, ⟨1, 2⟩, [⟨[' ', ','], none, 2⟩, ⟨[' ', ','], none, 2⟩]⟩] := by
  decide

end Passage

end Lockstep
