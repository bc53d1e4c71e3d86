import Lockstep.Proofs.Scan

/-!
# How blocks nest

Whatever a text holds, its blocks close in the reverse order in which they open.
This file follows a scan with the blocks found so far and the blocks that are still
open, and shows what that means for the findings (`findings_nested`): errors come
last, the blocks end one below the other, two of them lie apart or one inside the
other, and the openings that are named as never closed lie outside of all of them.

* `Scan.openings`: the lines that open a block.  The lines of a list are not among
  them, whatever they hold.
* `Scan.Nested`: where the open blocks lie, and those found so far.
* `Scan.Tracked`: besides, every opening has been closed, is open, or lies below.
* `Scan.Tracked.next`: a step to the next finding keeps this, unless there are
  errors.
-/

namespace Lockstep

/-! ## Errors in a list -/

namespace Entries

/-- A list in error says nothing about openings. -/
theorem readLine_failed {marker here : Nat} {e : Entries} {place : Place} {text : Text}
    {error : BlockError} (h : readLine marker here e place text = .failed error) :
    ∃ n, error = .emptyEntry n marker := by
  fun_induction readLine marker here e place text with
  | case1 e run => cases h
  | case2 e place => cases h
  | case3 e c rest single ih => exact ih h
  | case4 e c rest double ih => exact ih h
  | case5 e place c rest _ blank ih => exact ih h
  | case6 e place rest _ solid begun settled empty =>
    cases h
    exact ⟨_, rfl⟩
  | case7 e place rest _ solid begun settled filled ih => exact ih h
  | case8 e place rest _ solid begun _ settled => cases h
  | case9 e place rest _ solid begun _ _ ih => exact ih h
  | case10 e place c rest _ solid begun _ _ _ ih => exact ih h

theorem ne_noClosing_of_readLines {marker : Nat} {e : Entries} {here : Nat} {lines : List Text}
    {error : BlockError} (h : readLines marker e here lines = .error error) (line : Nat) :
    error ≠ .noClosing line := by
  induction lines generalizing e here with
  | nil =>
    cases h
    exact BlockError.noConfusion
  | cons text lines ih =>
    rw [readLines] at h
    split at h
    · exact ih h
    · cases h
    · next hfailed =>
      cases h
      obtain ⟨n, rfl⟩ := readLine_failed hfailed
      exact BlockError.noConfusion

theorem ne_noClosing_of_read {marker : Nat} {text : Text} {lines : List Text} {error : BlockError}
    (h : read marker text lines = .error error) (line : Nat) : error ≠ .noClosing line := by
  unfold read at h
  split at h
  · split at h
    · exact ne_noClosing_of_readLines h line
    · cases h
    · next hfailed =>
      cases h
      obtain ⟨n, rfl⟩ := readLine_failed hfailed
      exact BlockError.noConfusion
  · cases h
    exact BlockError.noConfusion

end Entries

/-! ## Ranges and lines -/

/-- The line lies in the range. -/
def LineRange.Holds (r : LineRange) (line : Nat) : Prop := r.first ≤ line ∧ line ≤ r.last

/-- A range that ends before another one does, and lies before it or inside of it. -/
def LineRange.EndsBefore (r r' : LineRange) : Prop :=
  r.last < r'.last ∧ (r.last < r'.first ∨ r'.first < r.first)

namespace Scan

/-! ## The lines that open a block -/

/-- How many of the lines below a line belong to the list of its closing marker. -/
def listLines (marker : Nat) (line : Text) (lines : List Text) : Nat :=
  match Marker.afterClosing? (Marker.readOpening line).2 with
  | none => 0
  | some rest =>
    match Entries.read marker rest lines with
    | .ok (_, last, _) => last - marker
    | .error _ => 0

/-- The lines that open a block behind the first `here` lines, of which the next `skip` belong to a
list. -/
def openings (here skip : Nat) : List Text → List Nat
  | [] => []
  | line :: lines =>
    match skip with
    | skip + 1 => openings (here + 1) skip lines
    | 0 =>
      let below := openings (here + 1) (listLines (here + 1) line lines) lines
      match (Marker.readOpening line).1 with
      | .present _ => (here + 1) :: below
      | _ => below

theorem openings_skip (here n : Nat) (lines : List Text) :
    openings here n lines = openings (here + n) 0 (lines.drop n) := by
  induction lines generalizing here n with
  | nil => rw [List.drop_nil]; rfl
  | cons line lines ih =>
    cases n with
    | zero => rfl
    | succ n =>
      rw [openings, ih, List.drop_succ_cons]
      congr 1
      omega

/-- A line moves its opening, if it has one, to the blocks that are open. -/
theorem openings_line {line rest : Text} {opening : Marker.Opening}
    (hopening : Marker.readOpening line = (opening, rest)) (here : Nat) (lines : List Text)
    (opened : List OpenBlock) :
    (opened.map (·.line) ++ openings here 0 (line :: lines)).Perm
      ((openOn (here + 1) opening opened).map (·.line) ++
        openings (here + 1) (listLines (here + 1) line lines) lines) := by
  rw [openings, hopening]
  cases opening with
  | absent => rfl
  | unclosed => rfl
  | present name => exact List.perm_middle

/-! ## What holds while a file is scanned -/

/-- A scan of a file in which the blocks `found` have been found.  The blocks that are open have
opened one below the other, on lines that have been read, and outside of the blocks found. -/
structure Nested (file : List Text) (found : List Block) (s : Scan) : Prop where
  here_le : s.here ≤ file.length
  lines_eq : s.lines = file.drop s.here
  opened_bounds : ∀ o ∈ s.opened, 1 ≤ o.line ∧ o.line ≤ s.here
  opened_sorted : s.opened.Pairwise fun inner outer => outer.line < inner.line
  found_bounds : ∀ b ∈ found, 1 ≤ b.range.first ∧ b.range.first ≤ b.range.last ∧
    b.range.last ≤ s.here
  found_sorted : found.Pairwise fun b c => b.range.EndsBefore c.range
  apart : ∀ o ∈ s.opened, ∀ b ∈ found, ¬ b.range.Holds o.line

variable {file : List Text} {found : List Block} {s : Scan} {here : Nat} {line : Text}
  {lines : List Text} {opened : List OpenBlock}

theorem nested_start (text : Text) : Nested text.fileLines [] (start text) where
  here_le := Nat.zero_le _
  lines_eq := rfl
  opened_bounds := by simp [start]
  opened_sorted := .nil
  found_bounds := by simp
  found_sorted := .nil
  apart := by simp

/-- A line that has been read is behind the scan. -/
theorem Nested.skip (h : Nested file found ⟨here, line :: lines, opened⟩) :
    Nested file found ⟨here + 1, lines, opened⟩ where
  here_le := by
    have hlength := congrArg List.length h.lines_eq
    rw [List.length_drop] at hlength
    simp only [List.length_cons] at hlength
    dsimp only
    omega
  lines_eq := by
    have htail := congrArg List.tail h.lines_eq
    rw [List.tail_drop] at htail
    exact htail
  opened_bounds := by
    intro o ho
    obtain ⟨hone, hle⟩ := h.opened_bounds o ho
    exact ⟨hone, Nat.le_succ_of_le hle⟩
  opened_sorted := h.opened_sorted
  found_bounds := by
    intro b hb
    obtain ⟨hone, hle, hlast⟩ := h.found_bounds b hb
    exact ⟨hone, hle, Nat.le_succ_of_le hlast⟩
  found_sorted := h.found_sorted
  apart := h.apart

/-- Reading a line keeps the blocks nested, also if the line opens one. -/
theorem Nested.readLine (h : Nested file found ⟨here, line :: lines, opened⟩)
    (opening : Marker.Opening) :
    Nested file found ⟨here + 1, lines, openOn (here + 1) opening opened⟩ := by
  cases opening with
  | absent => exact h.skip
  | unclosed => exact h.skip
  | present name =>
    have hskip := h.skip
    refine { hskip with opened_bounds := ?_, opened_sorted := ?_, apart := ?_ }
    · exact List.forall_mem_cons.2 ⟨⟨Nat.succ_pos here, Nat.le_refl _⟩, hskip.opened_bounds⟩
    · exact .cons (fun outer ho => Nat.lt_succ_of_le (h.opened_bounds outer ho).2) h.opened_sorted
    · refine List.forall_mem_cons.2 ⟨?_, h.apart⟩
      -- the blocks found end above the line that opens this one
      rintro b hb ⟨-, hle⟩
      have hlast := (h.found_bounds b hb).2.2
      dsimp only at hle hlast
      omega

/-- Closing the innermost block keeps the blocks nested.  The blocks found before end above its
closing marker. -/
theorem Nested.close {o : OpenBlock} (h : Nested file found ⟨here, lines, o :: opened⟩)
    (habove : ∀ b ∈ found, b.range.last < here) {obligations : List Obligation} {n : Nat}
    (hn : n ≤ lines.length) :
    Nested file (found ++ [⟨o.name, ⟨o.line, here⟩, obligations⟩])
      ⟨here + n, lines.drop n, opened⟩ := by
  obtain ⟨hinner, hsorted⟩ := List.pairwise_cons.1 h.opened_sorted
  have hlength : lines.length = file.length - here := by
    rw [show lines = file.drop here from h.lines_eq, List.length_drop]
  have hhere : here ≤ file.length := h.here_le
  obtain ⟨hone, hfirst⟩ := h.opened_bounds o List.mem_cons_self
  refine ⟨?_, ?_, ?_, hsorted, ?_, ?_, ?_⟩
  · show here + n ≤ file.length
    omega
  · show lines.drop n = file.drop (here + n)
    rw [show lines = file.drop here from h.lines_eq, List.drop_drop]
  · intro outer ho
    obtain ⟨hone, hle⟩ := h.opened_bounds outer (List.mem_cons_of_mem _ ho)
    exact ⟨hone, Nat.le_add_right_of_le hle⟩
  · intro b hb
    rcases List.mem_append.1 hb with hb | hb
    · obtain ⟨hone, hle, hlast⟩ := h.found_bounds b hb
      exact ⟨hone, hle, Nat.le_add_right_of_le hlast⟩
    · rw [List.mem_singleton.1 hb]
      exact ⟨hone, hfirst, Nat.le_add_right _ _⟩
  · refine List.pairwise_append.2 ⟨h.found_sorted, List.pairwise_singleton _ _, ?_⟩
    intro b hb c hc
    rw [List.mem_singleton.1 hc]
    refine ⟨habove b hb, ?_⟩
    -- what was open while `b` was found opened above it or below it
    have hapart : ¬ (b.range.first ≤ o.line ∧ o.line ≤ b.range.last) :=
      h.apart o List.mem_cons_self b hb
    show b.range.last < o.line ∨ o.line < b.range.first
    omega
  · intro outer ho b hb
    rcases List.mem_append.1 hb with hb | hb
    · exact h.apart outer (List.mem_cons_of_mem _ ho) b hb
    · rw [List.mem_singleton.1 hb]
      rintro ⟨hle, -⟩
      exact absurd (hinner outer ho) (Nat.not_lt.2 hle)

/-- A nested scan that has lost no opening: each one is the first line of a block found, or open,
or behind the scan. -/
structure Tracked (file : List Text) (found : List Block) (s : Scan) : Prop
    extends Nested file found s where
  account : (openings 0 0 file).Perm
    (found.map (·.range.first) ++ (s.opened.map (·.line) ++ openings s.here 0 s.lines))

theorem tracked_start (text : Text) : Tracked text.fileLines [] (start text) :=
  ⟨nested_start text, .refl _⟩

/-- A line without a closing marker. -/
theorem Tracked.pass (h : Tracked file found ⟨here, line :: lines, opened⟩)
    {opening : Marker.Opening} {rest : Text} (hopening : Marker.readOpening line = (opening, rest))
    (hclosing : Marker.afterClosing? rest = none) :
    Tracked file found ⟨here + 1, lines, openOn (here + 1) opening opened⟩ := by
  refine ⟨h.toNested.readLine opening, h.account.trans (.append_left _ ?_)⟩
  have hline := openings_line hopening here lines opened
  have hlist : listLines (here + 1) line lines = 0 := by
    rw [listLines, hopening]
    simp only [hclosing]
  rwa [hlist] at hline

/-- A line with a closing marker and a list that goes on for `n` lines. -/
theorem Tracked.close (h : Tracked file found ⟨here, line :: lines, opened⟩)
    {opening : Marker.Opening} {rest list : Text}
    (hopening : Marker.readOpening line = (opening, rest))
    (hclosing : Marker.afterClosing? rest = some list) {obligations : List Obligation} {n : Nat}
    (hlist : Entries.read (here + 1) list lines = .ok (obligations, here + 1 + n, lines.drop n))
    (hn : n ≤ lines.length) {o : OpenBlock} {outer : List OpenBlock}
    (hopened : openOn (here + 1) opening opened = o :: outer) :
    Tracked file (found ++ [⟨o.name, ⟨o.line, here + 1⟩, obligations⟩])
      ⟨here + 1 + n, lines.drop n, outer⟩ := by
  have hread := h.toNested.readLine opening
  rw [hopened] at hread
  refine ⟨hread.close (fun b hb => Nat.lt_succ_of_le (h.found_bounds b hb).2.2) hn, ?_⟩
  have hlines : listLines (here + 1) line lines = n := by
    rw [listLines, hopening]
    simp only [hclosing, hlist]
    omega
  have hline := openings_line hopening here lines opened
  rw [hopened, hlines, openings_skip (here + 1) n] at hline
  refine h.account.trans ((hline.append_left _).trans (.of_eq ?_))
  simp only [List.map_append, List.map_cons, List.map_nil, List.append_assoc, List.cons_append,
    List.nil_append]

/-! ## From one finding to the next -/

/-- Errors that name openings as never closed name all those that are not the first line of a block
found.  They do so one below the other, and outside of the blocks found. -/
def NamesUnclosed (file : List Text) (found : List Block) (errors : List BlockError) : Prop :=
  (∃ line, .noClosing line ∈ errors) → ∃ lines : List Nat, errors = lines.map .noClosing ∧
    lines.Pairwise (· < ·) ∧ (openings 0 0 file).Perm (found.map (·.range.first) ++ lines) ∧
    ∀ line ∈ lines, ∀ b ∈ found, ¬ b.range.Holds line

theorem noClosing_not_mem_close {marker : Nat} {rest : Text} {errors : List BlockError}
    (h : close marker rest lines opened = (.broken errors, s)) (line : Nat) :
    .noClosing line ∉ errors := by
  unfold close at h
  split at h
  · next e hread =>
    cases h
    simp [(Entries.ne_noClosing_of_read hread line).symm]
  · next e _ _ hread =>
    cases h
    simp [(Entries.ne_noClosing_of_read hread line).symm]
  · cases h
    simp
  · cases h

/-- At the end of a file the blocks that are open are named from the outermost inwards. -/
theorem Tracked.namesUnclosed (h : Tracked file found ⟨here, [], opened⟩) :
    NamesUnclosed file found (opened.reverse.map fun o => .noClosing o.line) := by
  intro _
  refine ⟨opened.reverse.map (·.line), by rw [List.map_map]; rfl, ?_, ?_, ?_⟩
  · rw [List.pairwise_map, List.pairwise_reverse]
    exact h.opened_sorted
  · refine h.account.trans (.append_left _ ?_)
    rw [openings, List.append_nil]
    exact (List.reverse_perm opened).symm.map _
  · intro line hline
    obtain ⟨o, ho, rfl⟩ := List.mem_map.1 hline
    exact h.apart o (List.mem_reverse.1 ho)

/-- There is nothing left and every opening has been closed, or the next finding is a block and the
scan stays tracked, or it is the last one. -/
theorem Tracked.next (h : Tracked file found s) :
    (s.next? = none ∧ (openings 0 0 file).Perm (found.map (·.range.first))) ∨
      (∃ b s', s.next? = some (.block b, s') ∧ Tracked file (found ++ [b]) s') ∨
      ∃ errors, s.next? = some (.broken errors, finished) ∧ NamesUnclosed file found errors := by
  obtain ⟨here, lines, opened⟩ := s
  show (advance here opened lines = none ∧ _) ∨ (∃ b s', advance here opened lines = _ ∧ _) ∨
    ∃ errors, advance here opened lines = _ ∧ _
  induction lines generalizing here opened with
  | nil =>
    cases opened with
    | nil =>
      have haccount := h.account
      rw [openings, List.map_nil, List.append_nil, List.append_nil] at haccount
      exact .inl ⟨rfl, haccount⟩
    | cons o outer => exact .inr (.inr ⟨_, rfl, h.namesUnclosed⟩)
  | cons line lines ih =>
    rw [advance]
    split
    next opening rest hopening =>
    split
    · refine .inr (.inr ⟨_, rfl, ?_⟩)
      rintro ⟨n, hn⟩
      simp at hn
    · dsimp only
      split
      · next list hclosing =>
        rcases hclose : Scan.close (here + 1) list lines (openOn (here + 1) opening opened)
          with ⟨f, s'⟩
        rcases close_cases hclose with ⟨errors, -, rfl, rfl⟩ |
          ⟨obligations, last, below, o, outer, hlist, hopened, rfl, rfl⟩
        · refine .inr (.inr ⟨errors, rfl, ?_⟩)
          rintro ⟨n, hn⟩
          exact absurd hn (noClosing_not_mem_close hclose n)
        · obtain ⟨n, hn, rfl, rfl⟩ := Entries.read_drop hlist
          exact .inr (.inl ⟨_, _, rfl, h.close hopening hclosing hlist hn hopened⟩)
      · next hclosing => exact ih _ _ (h.pass hopening hclosing)

/-! ## All findings -/

/-- The findings of a scan are blocks, and maybe errors behind them; with the blocks found before,
the blocks are nested, and no opening is lost. -/
theorem Tracked.findings (h : Tracked file found s) :
    ∃ (blocks : List Block) (broken : Option (List BlockError)) (s' : Scan),
      s.findings = blocks.map .block ++ broken.toList.map .broken ∧
        Nested file (found ++ blocks) s' ∧
        (broken = none → (openings 0 0 file).Perm ((found ++ blocks).map (·.range.first))) ∧
        ∀ errors ∈ broken, NamesUnclosed file (found ++ blocks) errors := by
  induction hlength : s.lines.length using Nat.strongRecOn generalizing s found with
  | ind n ih =>
    rw [findings_eq]
    rcases h.next with ⟨hnext, hclosed⟩ | ⟨b, s', hnext, htracked⟩ | ⟨errors, hnext, hnames⟩
    · rw [hnext]
      refine ⟨[], none, s, rfl, ?_, ?_, by simp⟩ <;> rw [List.append_nil]
      · exact h.toNested
      · exact fun _ => hclosed
    · have hlt : s'.lines.length < n := by
        rcases advance_cases hnext with ⟨errors, -, ⟨⟩, -⟩ | ⟨-, hlt⟩
        rwa [hlength] at hlt
      obtain ⟨blocks, broken, s'', hfindings, hblocks, hclosed, herrors⟩ := ih _ hlt htracked rfl
      rw [List.append_assoc, List.singleton_append] at hblocks hclosed herrors
      rw [hnext]
      exact ⟨b :: blocks, broken, s'', congrArg (Finding.block b :: ·) hfindings, hblocks, hclosed,
        herrors⟩
    · rw [hnext]
      refine ⟨[], some errors, s, rfl, ?_, nofun, ?_⟩ <;> rw [List.append_nil]
      · exact h.toNested
      · simpa using hnames

end Scan

/-- The lines of a text that open a block. -/
def openingLines (text : Text) : List Nat := Scan.openings 0 0 text.fileLines

/-- The findings of any text are blocks, and behind them errors at the most once.  The blocks lie in
the file and end one below the other; of two blocks the later one begins behind the earlier one or
encloses it.  Without errors the blocks begin on the lines that open one, each on its own.  Openings
that are never closed are named one below the other: all that are not the first line of a block, and
none of them lies inside of a block. -/
theorem findings_nested (path text : Text) :
    ∃ (blocks : List Block) (broken : Option (List BlockError)),
      findings text = blocks.map .block ++ broken.toList.map .broken ∧
      (∀ b ∈ blocks, 1 ≤ b.range.first ∧ b.range.first ≤ b.range.last ∧
        b.range.last ≤ text.fileLines.length) ∧
      (blocks.Pairwise fun b c => b.range.last < c.range.last ∧
        (b.range.last < c.range.first ∨ c.range.first < b.range.first)) ∧
      (broken = none → (openingLines text).Perm (blocks.map (·.range.first))) ∧
      ∀ errors ∈ broken, (∃ line, .noClosing line ∈ errors) → ∃ lines : List Nat,
        (errors.map (·.message path) = lines.map fun line =>
          s!"Missing \"then-change\" for \"if-changed\" at line {line} for {path.quote}.") ∧
        lines.Pairwise (· < ·) ∧
        (openingLines text).Perm (blocks.map (·.range.first) ++ lines) ∧
        ∀ line ∈ lines, ∀ b ∈ blocks, line ≠ b.range.first ∧
          ¬ (b.range.first ≤ line ∧ line ≤ b.range.last) := by
  obtain ⟨blocks, broken, s, hfindings, hnested, hclosed, hnames⟩ :=
    (Scan.tracked_start text).findings
  rw [List.nil_append] at hnested hclosed hnames
  refine ⟨blocks, broken, hfindings, ?_, hnested.found_sorted, hclosed, ?_⟩
  · intro b hb
    obtain ⟨hone, hle, hlast⟩ := hnested.found_bounds b hb
    exact ⟨hone, hle, Nat.le_trans hlast hnested.here_le⟩
  · intro errors herrors hunclosed
    obtain ⟨lines, rfl, hsorted, haccount, hout⟩ := hnames errors herrors hunclosed
    refine ⟨lines, by rw [List.map_map]; rfl, hsorted, haccount, ?_⟩
    intro line hline b hb
    refine ⟨?_, hout line hline b hb⟩
    rintro rfl
    exact hout _ hline b hb ⟨Nat.le_refl _, (hnested.found_bounds b hb).2.1⟩

-- The opening on line 3 stands in a list; of the other two one is closed and one is named.
example :
    let text : Text := "# if-changed\n# then-change(a,\n# if-changed)\n# if-changed\n".toList
    let list : List Obligation := [⟨['a'], none, 2⟩, ⟨"if-changed".toList, none, 2⟩]
    openingLines text = [1, 4] ∧
      findings text = [.block ⟨none, ⟨1, 2⟩, list⟩, .broken [.noClosing 4]] := by
  decide

end Lockstep
