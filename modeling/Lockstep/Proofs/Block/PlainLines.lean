import Mathlib.Data.List.DropRight
import Lockstep.Proofs.Block.Spread

/-!
# Patterns on lines of their own

A list may stand on lines of its own between the line of its closing marker and the line
of its closing parenthesis (`lineList`).  Here each of these lines has an indentation, a
pattern that needs no backslash, and a comma.

The indentation is no comment leader, but the characters of a leader are dropped all the
same.  So the patterns are read as they are written exactly if none of them starts with
one of these characters (`Passage.findings_plainLines_iff`); on one line they always are.

* `PlainPattern.behindLeader`: what is left of a pattern.
* `Entries.readLines_plainLine`: a line gives what is left of its pattern, and
  `Entries.readLines_plainLine_nil` an error where nothing is left.
* `Entries.readLine_patterns`: the same patterns on one line.
-/

namespace Lockstep

/-- A list as written behind its opening parenthesis: nothing more on the line of the marker, some
lines, and a line for the closing parenthesis. -/
def lineList (gap : Blanks) (lines : List Text) (closer : Leader) : Text :=
  gap.text ++ '\n' :: (Text.unlines lines ++ (closer.text ++ [')']))

/-! ## Plain patterns -/

/-- A pattern that is written in a list as it is. -/
structure PlainPattern where
  text : Text
  ne_nil : text ≠ []
  trimmed : text.trim = text
  no_colon : ':' ∉ text
  no_backslash : '\\' ∉ text
  no_comma : ',' ∉ text
  no_close : ')' ∉ text
  line : '\n' ∉ text

namespace PlainPattern

/-- The obligation that is meant, on the line of the closing marker. -/
def obligation (line : Nat) (p : PlainPattern) : Obligation :=
  { pattern := p.text, name := none, line }

/-- The list of some patterns on one line, as written behind its opening parenthesis. -/
def listText : List PlainPattern → Text
  | [] => [')']
  | [p] => p.text ++ [')']
  | p :: q :: ps => p.text ++ ',' :: ' ' :: listText (q :: ps)

theorem feed_not_mem_listText (ps : List PlainPattern) : '\n' ∉ listText ps := by
  fun_induction listText ps with
  | case1 => decide
  | case2 p => simp [p.line]
  | case3 p q ps ih => simp [p.line, ih]

theorem getLast?_listText (ps : List PlainPattern) : (listText ps).getLast? = some ')' := by
  fun_induction listText ps with
  | case1 => rfl
  | case2 p => simp
  | case3 p q ps ih => simp [List.getLast?_append, List.getLast?_cons, ih]

/-- What is left of a pattern behind the characters of a comment leader. -/
def behindLeader (p : PlainPattern) : Text := (Marker.dropLeader p.text).trimStart

/-- The pattern starts with a character of a comment leader. -/
def StartsAsLeader (p : PlainPattern) : Prop := ∃ c ∈ p.text.head?, Marker.leaders.contains c = true

theorem obligation_text (line : Nat) (p : PlainPattern) :
    Entries.obligation line p.text = p.obligation line := by
  simp only [Entries.obligation, Text.cutAt?_eq_none p.no_colon, obligation]

theorem exists_cons (p : PlainPattern) : ∃ c t, p.text = c :: t ∧ Text.isBlank c = false := by
  obtain ⟨c, t, ht⟩ := List.exists_cons_of_ne_nil p.ne_nil
  have hstart := Text.trimStart_of_trim p.trimmed
  rw [ht] at hstart
  exact ⟨c, t, ht, Text.not_blank_of_trimStart hstart⟩

theorem dropLeader_text (p : PlainPattern) :
    Marker.dropLeader p.text = p.text.dropWhile (Marker.leaders.contains ·) := by
  rw [Marker.dropLeader, Text.trimStart_of_trim p.trimmed]

theorem behindLeader_suffix (p : PlainPattern) : p.behindLeader <:+ p.text := by
  rw [behindLeader, dropLeader_text]
  exact (List.dropWhile_suffix _).trans (List.dropWhile_suffix _)

/-- Behind the characters of a leader all of a pattern is there unless it starts with one. -/
theorem behindLeader_eq_text_iff (p : PlainPattern) :
    p.behindLeader = p.text ↔ ¬ p.StartsAsLeader := by
  obtain ⟨c, t, ht, hblank⟩ := p.exists_cons
  have hhead : p.StartsAsLeader ↔ Marker.leaders.contains c = true := by simp [StartsAsLeader, ht]
  rw [hhead, behindLeader, dropLeader_text, ht]
  by_cases hc : Marker.leaders.contains c = true
  · rw [List.dropWhile_cons, if_pos hc]
    refine iff_of_false (fun heq => ?_) (not_not_intro hc)
    have hsuffix : Text.trimStart (t.dropWhile (Marker.leaders.contains ·)) <:+ t :=
      (List.dropWhile_suffix _).trans (List.dropWhile_suffix _)
    have hlength := hsuffix.length_le
    rw [heq, List.length_cons] at hlength
    omega
  · rw [List.dropWhile_cons, if_neg hc]
    exact iff_of_true (Text.trimStart_cons hblank t) hc

/-- The rest of a pattern is a pattern of the same kind. -/
def rest (p : PlainPattern) (h : p.behindLeader ≠ []) : PlainPattern where
  text := p.behindLeader
  ne_nil := h
  trimmed := by
    have hend : Text.trimEnd p.behindLeader = p.behindLeader :=
      Text.trimEnd_of_suffix p.behindLeader_suffix (Text.trimEnd_of_trim p.trimmed)
    rw [Text.trim, behindLeader, Text.trimStart, Text.trimStart, List.dropWhile_idempotent]
    exact hend
  no_colon := fun hmem => p.no_colon (p.behindLeader_suffix.subset hmem)
  no_backslash := fun hmem => p.no_backslash (p.behindLeader_suffix.subset hmem)
  no_comma := fun hmem => p.no_comma (p.behindLeader_suffix.subset hmem)
  no_close := fun hmem => p.no_close (p.behindLeader_suffix.subset hmem)
  line := fun hmem => p.line (p.behindLeader_suffix.subset hmem)

end PlainPattern

/-- A line with a pattern, behind an indentation and with a comma behind it. -/
structure PlainLine where
  indent : Blanks
  pattern : PlainPattern
  behind : Blanks

/-- The line as written. -/
def PlainLine.text (l : PlainLine) : Text :=
  l.indent.text ++ (l.pattern.text ++ ',' :: l.behind.text)

theorem PlainLine.feed_not_mem (l : PlainLine) : '\n' ∉ l.text := by
  simp [PlainLine.text, l.indent.line, l.pattern.line, l.behind.line]

/-- A pattern loses the characters of a leader also where there is nothing but blanks before it. -/
theorem PlainLine.dropLeader_text (l : PlainLine) :
    Marker.dropLeader (Text.dropReturn l.text) =
      Marker.dropLeader l.pattern.text ++ ',' :: Text.dropReturn l.behind.text := by
  obtain ⟨c, t, ht, hblank⟩ := l.pattern.exists_cons
  have hreturn : Text.dropReturn l.text =
      l.indent.text ++ (l.pattern.text ++ ',' :: Text.dropReturn l.behind.text) := by
    have hsplit : l.text = (l.indent.text ++ l.pattern.text) ++ ',' :: l.behind.text := by
      simp [PlainLine.text]
    rw [hsplit, Text.dropReturn_append_of_ne_nil (List.cons_ne_nil _ _),
      Text.dropReturn_cons (by decide), List.append_assoc]
  rw [hreturn, Marker.dropLeader, Text.trimStart_append l.indent.blank, l.pattern.dropLeader_text,
    ht, List.cons_append, Text.trimStart_cons hblank, ← List.cons_append, List.dropWhile_append]
  split
  · next hempty =>
    rw [List.isEmpty_iff.1 hempty, List.nil_append, List.dropWhile_cons, if_neg (by decide)]
  · rfl

namespace Entries

variable {marker here : Nat} {e : Entries} {place : Place} {done : List Obligation}

/-! ## Reading a plain pattern -/

/-- A character without a meaning of its own goes to the run at hand, or starts one. -/
theorem readLine_ordinary (hplace : place ≠ .escape) {c : Char}
    (hstart : place.chars = [] → Text.isBlank c = false) (hslash : c ≠ '\\') (hcomma : c ≠ ',')
    (hclose : c ≠ ')') (rest : Text) :
    readLine marker here e place (c :: rest) =
      readLine marker here (e.begin here) (.run (place.chars ++ [c])) rest := by
  have hgo : ¬ (place.chars.isEmpty && Text.isBlank c) = true := by
    rw [Bool.and_eq_true, List.isEmpty_iff]
    rintro ⟨hempty, hblank⟩
    rw [hstart hempty] at hblank
    cases hblank
  cases place with
  | escape => exact absurd rfl hplace
  | idle => rw [readLine, if_neg hgo] <;> simp [hslash, hcomma, hclose]
  | run chars => rw [readLine, if_neg hgo] <;> simp [hslash, hcomma, hclose]

/-- A run goes on, over blanks as well. -/
theorem readLine_run {chars : Text} (hchars : chars ≠ []) {t : Text} (hslash : '\\' ∉ t)
    (hcomma : ',' ∉ t) (hclose : ')' ∉ t) (rest : Text) :
    ∃ e' : Entries, e'.done = e.done ∧ e'.buffer = e.buffer ∧
      readLine marker here e (.run chars) (t ++ rest) =
        readLine marker here e' (.run (chars ++ t)) rest := by
  induction t generalizing e chars with
  | nil => exact ⟨e, rfl, rfl, by rw [List.append_nil, List.nil_append]⟩
  | cons c t ih =>
    rw [List.mem_cons, not_or] at hslash hcomma hclose
    obtain ⟨e', hdone, hbuffer, hread⟩ :=
      ih (e := e.begin here) (List.concat_ne_nil c chars) hslash.2
      hcomma.2 hclose.2
    refine ⟨e', hdone, hbuffer, ?_⟩
    have hplace : Place.run chars ≠ .escape := Place.noConfusion
    have hstart : (Place.run chars).chars = [] → Text.isBlank c = false :=
      fun hnil => absurd hnil hchars
    rw [List.cons_append, readLine_ordinary hplace hstart (Ne.symm hslash.1) (Ne.symm hcomma.1)
      (Ne.symm hclose.1), Place.chars, hread, List.append_assoc, List.singleton_append]

/-- Behind a pattern the run at hand is all of it, and nothing else has been settled. -/
theorem readLine_pattern (p : PlainPattern) (rest : Text) :
    ∃ e : Entries, e.done = done ∧ e.buffer ++ p.text.trimEnd = p.text ∧
      readLine marker here { done := done } .idle (p.text ++ rest) =
        readLine marker here e (.run p.text) rest := by
  obtain ⟨c, t, ht, hblank⟩ := p.exists_cons
  have hslash := p.no_backslash
  have hcomma := p.no_comma
  have hclose := p.no_close
  rw [ht, List.mem_cons, not_or] at hslash hcomma hclose
  obtain ⟨e, hdone, hbuffer, hread⟩ := readLine_run (e := begin here { done := done })
    (List.cons_ne_nil c []) hslash.2 hcomma.2 hclose.2 rest
  refine ⟨e, hdone, by rw [hbuffer, Text.trimEnd_of_trim p.trimmed]; rfl, ?_⟩
  have hplace : Place.idle ≠ .escape := Place.noConfusion
  rw [ht, List.cons_append, readLine_ordinary hplace (fun _ => hblank) (Ne.symm hslash.1)
    (Ne.symm hcomma.1) (Ne.symm hclose.1)]
  exact hread

/-! A run and its entry end at a comma, at a closing parenthesis and at the end of the line. -/

theorem settle_run_ne {run : Text} (hne : e.buffer ++ run.trimEnd ≠ []) :
    ¬ ((e.begin here).settle (Place.run run).chars).buffer.isEmpty = true := by
  rw [List.isEmpty_iff]
  exact hne

theorem readLine_run_comma {run : Text} (hne : e.buffer ++ run.trimEnd ≠ []) (rest : Text) :
    readLine marker here e (.run run) (',' :: rest) =
      readLine marker here
        { done := obligation marker (e.buffer ++ run.trimEnd) :: e.done } .idle rest := by
  rw [readLine_cons Place.noConfusion (by decide)]
  simp only [if_true]
  rw [if_neg (settle_run_ne hne)]
  rfl

theorem readLine_run_close {run : Text} (hne : e.buffer ++ run.trimEnd ≠ []) (rest : Text) :
    readLine marker here e (.run run) (')' :: rest) =
      .closed (obligation marker (e.buffer ++ run.trimEnd) :: e.done).reverse := by
  rw [readLine_cons Place.noConfusion (by decide)]
  simp only [Char.reduceEq, if_false, if_true]
  rw [if_neg (settle_run_ne hne)]
  rfl

theorem readLine_run_end (run : Text) :
    readLine marker here e (.run run) [] =
      .more { done := obligation marker (e.buffer ++ run.trimEnd) :: e.done } := by
  rw [readLine]
  rfl

/-- A pattern is read up to the comma behind it. -/
theorem readLine_pattern_comma (p : PlainPattern) (rest : Text) :
    readLine marker here { done := done } .idle (p.text ++ ',' :: rest) =
      readLine marker here { done := p.obligation marker :: done } .idle rest := by
  obtain ⟨e, hdone, hentry, hread⟩ := readLine_pattern p (',' :: rest)
  rw [hread, readLine_run_comma (by rw [hentry]; exact p.ne_nil), hentry, hdone, p.obligation_text]

theorem readLine_pattern_close (p : PlainPattern) (rest : Text) :
    readLine marker here { done := done } .idle (p.text ++ ')' :: rest) =
      .closed (p.obligation marker :: done).reverse := by
  obtain ⟨e, hdone, hentry, hread⟩ := readLine_pattern p (')' :: rest)
  rw [hread, readLine_run_close (by rw [hentry]; exact p.ne_nil), hentry, hdone, p.obligation_text]

/-- On one line patterns are read as they are written, whatever they start with. -/
theorem readLine_patterns (ps : List PlainPattern) (rest : Text) :
    readLine marker here { done := done } .idle (PlainPattern.listText ps ++ rest) =
      .closed (done.reverse ++ ps.map (·.obligation marker)) := by
  fun_induction PlainPattern.listText ps generalizing done with
  | case1 =>
    rw [List.map_nil, List.append_nil]
    rfl
  | case2 p =>
    rw [List.append_assoc, List.singleton_append, readLine_pattern_close]
    simp
  | case3 p q ps ih =>
    rw [List.append_assoc, List.cons_append, List.cons_append, readLine_pattern_comma,
      readLine_blank (by decide), ih]
    simp

theorem readFrom_patterns (ps : List PlainPattern) (behind : Text) :
    readFrom marker here {} (PlainPattern.listText ps ++ behind) =
      .ok (ps.map (·.obligation marker), here, behind.laterLines) := by
  have hfeed := PlainPattern.feed_not_mem_listText ps
  have hlast : (PlainPattern.listText ps).getLast? ≠ some '\r' := by
    rw [PlainPattern.getLast?_listText]
    decide
  rw [readFrom, Text.firstLine_append hfeed hlast, Text.laterLines_append hfeed hlast,
    readLine_patterns]
  rfl

/-! ## Lines of a list -/

theorem readLine_trimStart (t : Text) :
    readLine marker here e .idle t.trimStart = readLine marker here e .idle t := by
  induction t with
  | nil => rfl
  | cons c t ih =>
    by_cases hc : Text.isBlank c = true
    · rw [readLine_blank hc, ← ih, Text.trimStart, List.dropWhile_cons, if_pos hc]
      rfl
    · rw [Text.trimStart_cons (by simpa using hc)]

/-- The line of the closing parenthesis ends the entry at hand, if there is one. -/
theorem readLines_closer (closer : Leader) (t : Text) :
    readLines marker e here (Text.fileLines (closer.text ++ ')' :: t)) =
      .ok ((if e.buffer = [] then e.done else (e.push marker).done).reverse, here + 1,
        t.laterLines) := by
  have hstart : closer.text ++ ')' :: t = (closer.text ++ [')']) ++ t := by simp
  have hfeed : '\n' ∉ closer.text ++ [')'] := by simp [Layout.leader_feed_not_mem]
  have hclose : readLine marker (here + 1) e .idle (')' :: t.firstLine) =
      .closed (if e.buffer = [] then e.done else (e.push marker).done).reverse := by
    rw [readLine_cons Place.noConfusion (by decide)]
    simp [settle, begin, push, Place.chars, Text.trimEnd]
  rw [hstart, Text.fileLines_start (by simp) hfeed (by simp), readLines, ← readLine_trimStart,
    List.append_assoc, List.singleton_append, Marker.dropLeader_text closer (by decide) (by decide),
    hclose]

theorem readFrom_lineList (gap : Blanks) (lines : List Text) (closer : Leader) (behind : Text) :
    readFrom marker here e (lineList gap lines closer ++ behind) =
      readLines marker e here
        (Text.fileLines (Text.unlines lines ++ (closer.text ++ ')' :: behind))) := by
  have hsplit : lineList gap lines closer ++ behind =
      gap.text ++ '\n' :: (Text.unlines lines ++ (closer.text ++ ')' :: behind)) := by
    simp [lineList]
  rw [hsplit, readFrom_blanks gap.blank gap.line, readFrom_feed]

/-- A line without a leader gives what is left of its pattern behind the characters of a leader. -/
theorem readLines_plainLine (l : PlainLine) (h : l.pattern.behindLeader ≠ []) (t : Text) :
    readLines marker { done := done } here (Text.fileLines (l.text ++ '\n' :: t)) =
      readLines marker { done := ⟨l.pattern.behindLeader, none, marker⟩ :: done }
        (here + 1) t.fileLines := by
  have hblanks : ∀ c ∈ Text.dropReturn l.behind.text, Text.isBlank c = true := fun c hc =>
    l.behind.blank c ((Text.dropReturn_prefix _).subset hc)
  have hleft : ¬ ((Marker.dropLeader l.pattern.text).dropWhile Text.isBlank).isEmpty = true :=
    fun hempty => h (List.isEmpty_iff.1 hempty)
  have htrim : Text.trimStart
      (Marker.dropLeader l.pattern.text ++ ',' :: Text.dropReturn l.behind.text) =
      (l.pattern.rest h).text ++ ',' :: Text.dropReturn l.behind.text := by
    rw [Text.trimStart, List.dropWhile_append, if_neg hleft]
    rfl
  rw [Text.fileLines_append l.feed_not_mem, readLines, l.dropLeader_text, ← readLine_trimStart,
    htrim, readLine_pattern_comma, readLine_blanks hblanks]
  rfl

/-- Where nothing is left of a pattern there is an empty entry. -/
theorem readLines_plainLine_nil (l : PlainLine) (h : l.pattern.behindLeader = []) (t : Text) :
    readLines marker { done := done } here (Text.fileLines (l.text ++ '\n' :: t)) =
      .error (.emptyEntry (here + 1) marker) := by
  have hnone : Marker.dropLeader l.pattern.text = [] := by
    by_contra hleft
    have hsuffix : Marker.dropLeader l.pattern.text <:+ l.pattern.text := by
      rw [l.pattern.dropLeader_text]
      exact List.dropWhile_suffix _
    exact Text.trimStart_ne_nil hleft
      (Text.trimEnd_of_suffix hsuffix (Text.trimEnd_of_trim l.pattern.trimmed)) h
  rw [Text.fileLines_append l.feed_not_mem, readLines, l.dropLeader_text, hnone, List.nil_append,
    readLine_cons Place.noConfusion (by decide)]
  rfl

/-- The lines of a list in which something is left of every pattern. -/
theorem readLines_plainLines {ls : List PlainLine} (h : ∀ l ∈ ls, l.pattern.behindLeader ≠ [])
    (closer : Leader) (behind : Text) :
    readLines marker { done := done } here
        (Text.fileLines (Text.unlines (ls.map PlainLine.text) ++ (closer.text ++ ')' :: behind))) =
      .ok (done.reverse ++ ls.map fun l => ⟨l.pattern.behindLeader, none, marker⟩,
        here + ls.length + 1, behind.laterLines) := by
  induction ls generalizing here done with
  | nil =>
    rw [List.map_nil, Text.unlines, List.flatMap_nil, List.nil_append, readLines_closer]
    simp
  | cons l ls ih =>
    rw [List.forall_mem_cons] at h
    have hlast : here + 1 + ls.length + 1 = here + (l :: ls).length + 1 := by
      rw [List.length_cons]
      omega
    rw [List.map_cons, Text.unlines_cons, List.append_assoc, List.cons_append,
      readLines_plainLine l h.1, ih h.2, hlast]
    simp

theorem readLines_plainLines_nil (marker here : Nat) (done : List Obligation) {ls : List PlainLine}
    (h : ∃ l ∈ ls, l.pattern.behindLeader = []) (closer : Leader) (behind : Text) :
    ∃ n, readLines marker { done := done } here
        (Text.fileLines (Text.unlines (ls.map PlainLine.text) ++ (closer.text ++ ')' :: behind))) =
      .error (.emptyEntry n marker) := by
  induction ls generalizing here done with
  | nil =>
    obtain ⟨l, hl, -⟩ := h
    cases hl
  | cons l ls ih =>
    rw [List.map_cons, Text.unlines_cons, List.append_assoc, List.cons_append]
    by_cases hl : l.pattern.behindLeader = []
    · exact ⟨here + 1, readLines_plainLine_nil l hl _⟩
    · rw [readLines_plainLine l hl]
      rw [List.exists_mem_cons_iff] at h
      exact ih _ _ (h.resolve_left hl)

/-- Lines without a leader give their patterns back if none of the patterns starts with a character
of a leader. -/
theorem readFrom_plainLines (gap : Blanks) {ls : List PlainLine}
    (h : ∀ l ∈ ls, ¬ l.pattern.StartsAsLeader) (closer : Leader) (behind : Text) :
    readFrom marker here {} (lineList gap (ls.map PlainLine.text) closer ++ behind) =
      .ok (ls.map (·.pattern.obligation marker), here + ls.length + 1, behind.laterLines) := by
  have hseen : ∀ l ∈ ls, l.pattern.behindLeader = l.pattern.text := fun l hl =>
    l.pattern.behindLeader_eq_text_iff.2 (h l hl)
  have hne : ∀ l ∈ ls, l.pattern.behindLeader ≠ [] := fun l hl => by
    rw [hseen l hl]
    exact l.pattern.ne_nil
  rw [readFrom_lineList, readLines_plainLines hne, List.reverse_nil, List.nil_append]
  rw [List.map_congr_left fun l hl => by rw [hseen l hl]]
  rfl

/-- If they give their patterns back, no pattern starts so. -/
theorem not_startsAsLeader_of_readFrom {gap : Blanks} {ls : List PlainLine} {closer : Leader}
    {behind : Text} {last : Nat} {rest : List Text}
    (hread : readFrom marker here {} (lineList gap (ls.map PlainLine.text) closer ++ behind) =
      .ok (ls.map (·.pattern.obligation marker), last, rest)) :
    ∀ l ∈ ls, ¬ l.pattern.StartsAsLeader := by
  rw [readFrom_lineList] at hread
  by_cases hne : ∀ l ∈ ls, l.pattern.behindLeader ≠ []
  · rw [readLines_plainLines hne, List.reverse_nil, List.nil_append, Except.ok.injEq,
      Prod.mk.injEq] at hread
    intro l hl
    have hpattern := congrArg Obligation.pattern (List.map_inj_left.1 hread.1 l hl)
    exact l.pattern.behindLeader_eq_text_iff.1 hpattern
  · obtain ⟨n, herror⟩ := readLines_plainLines_nil marker here [] (by simpa using hne) closer behind
    rw [herror] at hread
    cases hread

end Entries

namespace Passage

variable {here : Nat} {opened : List OpenBlock} {b : OpenBlock}

/-- Patterns on lines without a leader are read as they are written exactly if none of them starts
with a character of a leader.  On one line they always are. -/
theorem findings_plainLines_iff (before : Passage here (b :: opened)) (l : Leader) (gap : Blanks)
    (ls : List PlainLine) (closer : Leader) (behind : Text) :
    let marker := before.text.count '\n' + 1
    let meant : Finding := .block ⟨b.name, ⟨b.line, marker⟩, ls.map (·.pattern.obligation marker)⟩
    findings (before.text ++ closingText l (PlainPattern.listText (ls.map (·.pattern)) ++ behind)) =
      before.blocks.map .block ++ meant :: Scan.findings ⟨marker, behind.laterLines, opened⟩ ∧
    (findings (before.text ++ closingText l (lineList gap (ls.map (·.text)) closer ++ behind)) =
        before.blocks.map .block ++
          meant :: Scan.findings ⟨marker + ls.length + 1, behind.laterLines, opened⟩ ↔
      ∀ l ∈ ls, ¬ l.pattern.StartsAsLeader) := by
  intro marker meant
  have hmarker : marker = here + 1 := by rw [← before.count_text]
  have hmeant : meant =
      .block ⟨b.name, ⟨b.line, here + 1⟩, ls.map (·.pattern.obligation (here + 1))⟩ := by
    rw [← hmarker]
  rw [hmeant, hmarker, findings_append, findings_append, List.append_right_inj,
    List.append_right_inj]
  refine ⟨?_, ?_, ?_⟩
  · apply Scan.findings_closing_ok l b
    rw [Entries.readFrom_patterns, List.map_map]
    rfl
  · intro hfindings
    obtain ⟨last, rest, hread⟩ := Scan.readFrom_of_findings hfindings
    exact Entries.not_startsAsLeader_of_readFrom hread
  · intro hstarts
    exact Scan.findings_closing_ok l b (Entries.readFrom_plainLines gap hstarts closer behind)

/-- A file of the name `Makefile` loses its first letter on a line of its own, and keeps it on the
line of the marker. -/
theorem plainLines_makefile :
    let noBlanks : Blanks := ⟨[], List.forall_mem_nil _, Text.feed_not_mem_nil⟩
    let leader : Leader :=
      ⟨[], [], [], List.forall_mem_nil _, List.forall_mem_nil _, List.forall_mem_nil _,
      Text.feed_not_mem_nil, Text.feed_not_mem_nil⟩
    let pattern : PlainPattern :=
      ⟨"Makefile".toList, by decide, by decide, by decide, by decide, by decide,
      by decide, by decide⟩
    let before := Passage.start.opening leader none
    findings (before.text ++ closingText leader (PlainPattern.listText [pattern])) =
        [.block ⟨none, ⟨1, 2⟩, [⟨"Makefile".toList, none, 2⟩]⟩] ∧
      findings (before.text ++
          closingText leader
            (lineList noBlanks [PlainLine.text ⟨noBlanks, pattern, noBlanks⟩] leader)) =
        [.block ⟨none, ⟨1, 2⟩, [⟨"akefile".toList, none, 2⟩]⟩] := by
  decide

end Passage

end Lockstep
