import Lockstep.Proofs.Scan
import Lockstep.Proofs.Block.Render

/-!
# Reading written blocks

The findings of a file are the blocks it was made of, in the order in which they
end, with their names, their lines and their obligations
(`Layout.findings_render`).

* `Marker.readOpening_openingLine`, `Marker.readOpening_closingLine`: what the lines
  with markers say, whatever leader stands before the marker.
* `Entries.readLine_listText`: the list of a closing marker gives the obligations back,
  whatever their texts contain.
* `Scan.findings_layout`: a layout is read up to its end, whatever blocks are open
  around it and whatever follows.
-/

namespace Lockstep

/-! ## Markers -/

namespace Marker

theorem not_leader_of_blank {c : Char} (h : Text.isBlank c = true) :
    leaders.contains c = false := by
  have hleaders : Text.Solid leaders := by decide
  cases hc : leaders.contains c with
  | false => rfl
  | true =>
    rw [hleaders c (by simpa using hc)] at h
    cases h

theorem not_blank_of_leader {c : Char} (h : leaders.contains c = true) :
    Text.isBlank c = false := by
  cases hc : Text.isBlank c with
  | false => rfl
  | true => rw [not_leader_of_blank hc] at h; cases h

/-- A leader with marks is dropped up to what is not part of it. -/
theorem dropLeader_marks (l : Leader) (hmarks : l.marks ≠ []) {t : Text}
    (ht : ∀ c ∈ t.head?, leaders.contains c = false) :
    dropLeader (l.indent ++ (l.marks ++ t)) = t := by
  obtain ⟨m, marks, hm⟩ := List.exists_cons_of_ne_nil hmarks
  have hmem : ∀ d ∈ m :: marks, leaders.contains d = true := hm ▸ l.marks_mem
  have hstart : Text.trimStart ((m :: marks) ++ t) = (m :: marks) ++ t :=
    Text.trimStart_cons (not_blank_of_leader (hmem m List.mem_cons_self)) _
  rw [dropLeader, hm, Text.trimStart_append l.indent_blank, hstart,
    List.dropWhile_append_of_pos hmem]
  cases t with
  | nil => rfl
  | cons c t => rw [List.dropWhile_cons, ht c rfl]; rfl

/-- A leader is passed over, up to what is neither blank nor part of a leader. -/
theorem dropLeader_text (l : Leader) {c : Char} {t : Text} (hblank : Text.isBlank c = false)
    (hleader : leaders.contains c = false) :
    (dropLeader (l.text ++ c :: t)).trimStart = c :: t := by
  have hgap : Text.trimStart (l.gap ++ c :: t) = c :: t := by
    rw [Text.trimStart_append l.gap_blank, Text.trimStart_cons hblank]
  rw [Leader.text, List.append_assoc, List.append_assoc]
  by_cases hmarks : l.marks = []
  · rw [hmarks, List.nil_append, dropLeader, Text.trimStart_append l.indent_blank, hgap,
      List.dropWhile_cons, hleader]
    exact Text.trimStart_cons hblank t
  · have hhead : ∀ d ∈ (l.gap ++ c :: t).head?, leaders.contains d = false := by
      cases hl : l.gap with
      | nil =>
        rintro d ⟨⟩
        exact hleader
      | cons g gap =>
        rintro d ⟨⟩
        exact not_leader_of_blank (l.gap_blank g (by simp [hl]))
    rw [dropLeader_marks l hmarks hhead, hgap]

theorem readOpening_openingLine (l : Leader) (name : Option BlockName) :
    readOpening (openingLine l name) = (.present (name.map (·.text)), []) := by
  have hbody (t : Text) : (dropLeader (l.text ++ (opening ++ t))).trimStart = opening ++ t :=
    dropLeader_text l (by decide) (by decide)
  rw [readOpening, openingLine, hbody, Text.after?_append]
  cases name with
  | none => rfl
  | some n =>
    have hname : Text.cutAt? ')' (n.text ++ [')']) = some (n.text, []) :=
      Text.cutAt?_append n.no_close []
    have hopen : Text.trimStart ('(' :: (n.text ++ [')'])) = '(' :: (n.text ++ [')']) :=
      Text.trimStart_cons (by decide) _
    simp only [Option.map_some, Option.getD_some, hopen, hname, n.trimmed]

theorem readOpening_closing (l : Leader) (t : Text) :
    readOpening (l.text ++ (closing ++ t)) = (.absent, closing ++ t) := by
  have hbody : (dropLeader (l.text ++ (closing ++ t))).trimStart = closing ++ t :=
    dropLeader_text l (by decide) (by decide)
  rw [readOpening, hbody]
  rfl

theorem readOpening_closingLine (l : Leader) (targets : List Target) :
    readOpening (closingLine l targets) = (.absent, closing ++ '(' :: Target.listText targets) :=
  readOpening_closing l _

theorem afterClosing?_closing (t : Text) : afterClosing? (closing ++ t) = some t := by
  rw [afterClosing?, Text.cutAtWord?_append closing t (by decide)]
  rfl

/-- A line without the words opens nothing and closes nothing. -/
theorem readOpening_of_not_includes {t : Text} (hopening : Text.includes opening t = false)
    (hclosing : Text.includes closing t = false) :
    ∃ rest, readOpening t = (.absent, rest) ∧ afterClosing? rest = none := by
  have hpart : (dropLeader t).trimStart <:+: t :=
    (((List.dropWhile_suffix _).trans (List.dropWhile_suffix _)).trans
      (List.dropWhile_suffix _)).isInfix
  refine ⟨(dropLeader t).trimStart, ?_, ?_⟩
  · rw [readOpening, Text.after?_eq_none (Text.includes_part hpart hopening) (by decide)]
  · rw [afterClosing?, Text.cutAtWord?_eq_none (Text.includes_part hpart hclosing)]
    rfl

end Marker

/-! ## Lists -/

theorem Target.obligation_entry (line : Nat) (t : Target) :
    Entries.obligation line t.entry = t.obligation line := by
  cases t with
  | file pattern ne_nil no_colon hline =>
    simp only [Entries.obligation, entry, Text.cutAt?_eq_none no_colon, obligation]
  | block pattern name trimmed no_colon hline name_trimmed name_line =>
    simp only [Entries.obligation, entry, Text.cutAt?_append no_colon, trimmed, name_trimmed,
      obligation]

theorem Target.entry_ne_nil (t : Target) : t.entry ≠ [] := by
  cases t with
  | file pattern ne_nil => exact ne_nil
  | block pattern name => simp [entry]

namespace Entries

variable {marker here : Nat} {e : Entries} {place : Place} {done : List Obligation} {t : Text}

/-- The reader has complete entries, and the text `t` of the one at hand: a part of it is settled,
and the run before the next character is the rest. -/
structure Holds (e : Entries) (place : Place) (done : List Obligation) (t : Text) : Prop where
  done_eq : e.done = done
  text_eq : e.buffer ++ place.chars = t
  solid : place.chars.Solid
  not_escape : place ≠ .escape

theorem holds_start : Holds { done := done } .idle done [] :=
  ⟨rfl, rfl, fun _ hc => absurd hc List.not_mem_nil, nofun⟩

theorem Holds.settle (h : Holds e place done t) :
    ((e.begin here).settle place.chars).buffer = t := by
  rw [Entries.settle, h.solid.trimEnd]
  exact h.text_eq

theorem Holds.push (h : Holds e place done t) :
    ((e.begin here).settle place.chars).push marker = { done := obligation marker t :: done } := by
  have hdone : ((e.begin here).settle place.chars).done = done := h.done_eq
  rw [Entries.push, h.settle, hdone]

/-- Reads a character that is not blank and not behind a backslash. -/
theorem readLine_cons (hplace : place ≠ .escape) {c : Char} (hc : Text.isBlank c = false)
    (rest : Text) :
    readLine marker here e place (c :: rest) =
      let e := e.begin here
      if c = ',' then
        let e := e.settle place.chars
        if e.buffer.isEmpty then .failed (.emptyEntry (e.entryLine.getD here) marker)
        else readLine marker here (e.push marker) .idle rest
      else if c = ')' then
        let e := e.settle place.chars
        .closed (if e.buffer.isEmpty then e.done else (e.push marker).done).reverse
      else if c = '\\' then readLine marker here (e.settle place.chars) .escape rest
      else readLine marker here e (.run (place.chars ++ [c])) rest := by
  cases place with
  | idle => rw [readLine] <;> simp [hc]
  | run chars => rw [readLine] <;> simp [hc]
  | escape => exact absurd rfl hplace

theorem isSingleUnit_of_isSpecial {c : Char} (h : Target.isSpecial c = true) :
    Text.isSingleUnit c = true := by
  have hchar (d : Char) (hd : c = d) (hsingle : Text.isSingleUnit d = true) :
      Text.isSingleUnit c = true :=
    hd ▸ hsingle
  simp only [Target.isSpecial, Bool.or_eq_true, decide_eq_true_eq] at h
  rcases h with ((h | h) | h) | h
  · exact hchar _ h (by decide)
  · exact hchar _ h (by decide)
  · exact hchar _ h (by decide)
  · simp only [Text.isBlank, Bool.or_eq_true, Bool.and_eq_true, decide_eq_true_eq, beq_iff_eq] at h
    rw [Text.isSingleUnit, decide_eq_true_eq]
    omega

/-- A character that is written for an entry becomes part of the entry.  Behind a protected one the
reader is between runs, behind any other one it is in a run. -/
theorem readLine_escapeChar (h : Holds e place done t) (c : Char) (rest : Text) :
    ∃ e' place', Holds e' place' done (t ++ [c]) ∧
      (Target.isSpecial c = true → place' = .idle) ∧
      (Target.isSpecial c = false → place'.chars ≠ []) ∧
      readLine marker here e place (Target.escapeChar c ++ rest) =
        readLine marker here e' place' rest := by
  unfold Target.escapeChar
  split
  · next hspecial =>
    refine ⟨{ (e.begin here).settle place.chars with buffer := t ++ [c] }, .idle,
      ⟨h.done_eq, List.append_nil _, fun d hd => absurd hd List.not_mem_nil, nofun⟩,
      fun _ => rfl, ?_, ?_⟩
    · rw [hspecial]
      rintro ⟨⟩
    · rw [List.cons_append, readLine_cons h.not_escape (by decide)]
      simp only [Char.reduceEq, if_false, if_true]
      rw [List.singleton_append, readLine, if_pos (isSingleUnit_of_isSpecial hspecial), h.settle]
  · next hordinary =>
    have hspecial (h : Target.isSpecial c = true) : Place.run (place.chars ++ [c]) = .idle :=
      absurd h hordinary
    simp only [Target.isSpecial, Bool.or_eq_true, decide_eq_true_eq, not_or, Bool.not_eq_true]
      at hordinary
    obtain ⟨⟨⟨hslash, hcomma⟩, hclose⟩, hblank⟩ := hordinary
    refine ⟨e.begin here, .run (place.chars ++ [c]), ⟨h.done_eq, ?_, ?_, nofun⟩, hspecial, ?_, ?_⟩
    · rw [← h.text_eq, List.append_assoc]
      rfl
    · intro d hd
      rcases List.mem_append.1 hd with hd | hd
      · exact h.solid d hd
      · rw [List.mem_singleton.1 hd, hblank]
    · exact fun _ => List.concat_ne_nil c place.chars
    · rw [List.singleton_append, readLine_cons h.not_escape hblank]
      simp only [hslash, hcomma, hclose, if_false]

theorem readLine_escape (h : Holds e place done t) (u rest : Text) :
    ∃ e' place', Holds e' place' done (t ++ u) ∧
      readLine marker here e place (Target.escape u ++ rest) =
        readLine marker here e' place' rest := by
  induction u generalizing e place t with
  | nil => exact ⟨e, place, (List.append_nil t).symm ▸ h, rfl⟩
  | cons c u ih =>
    obtain ⟨e', place', h', -, -, hread⟩ := readLine_escapeChar h c (Target.escape u ++ rest)
    obtain ⟨e'', place'', h'', hread'⟩ := ih h'
    refine ⟨e'', place'', by rwa [List.append_assoc] at h'', ?_⟩
    rw [Target.escape, List.flatMap_cons, List.append_assoc]
    exact hread.trans hread'

/-- An entry of a list is read up to the comma behind it. -/
theorem readLine_entry_comma (target : Target) (rest : Text) :
    readLine marker here { done := done } .idle (Target.escape target.entry ++ ',' :: rest) =
      readLine marker here { done := target.obligation marker :: done } .idle rest := by
  obtain ⟨e, place, h, hread⟩ := readLine_escape holds_start target.entry (',' :: rest)
  rw [List.nil_append] at h
  rw [hread, readLine_cons h.not_escape (by decide)]
  simp [h.settle, target.entry_ne_nil, h.push, target.obligation_entry]

theorem readLine_entry_close (target : Target) (rest : Text) :
    readLine marker here { done := done } .idle (Target.escape target.entry ++ ')' :: rest) =
      .closed (target.obligation marker :: done).reverse := by
  obtain ⟨e, place, h, hread⟩ := readLine_escape holds_start target.entry (')' :: rest)
  rw [List.nil_append] at h
  rw [hread, readLine_cons h.not_escape (by decide)]
  simp [h.settle, target.entry_ne_nil, h.push, target.obligation_entry]

/-- A list gives the obligations back that were written, whatever their texts contain. -/
theorem readLine_listText (targets : List Target) :
    readLine marker here { done := done } .idle (Target.listText targets) =
      .closed (done.reverse ++ targets.map (·.obligation marker)) := by
  fun_induction Target.listText targets generalizing done with
  | case1 =>
    rw [List.map_nil, List.append_nil]
    rfl
  | case2 target => simp [readLine_entry_close]
  | case3 target next targets ih => simp [readLine_entry_comma, ih]

theorem read_listText (targets : List Target) (lines : List Text) :
    read marker ('(' :: Target.listText targets) lines =
      .ok (targets.map (·.obligation marker), marker, lines) := by
  have hopen : Text.trimStart ('(' :: Target.listText targets) = '(' :: Target.listText targets :=
    Text.trimStart_cons (by decide) _
  simp only [read, hopen]
  rw [readLine_listText]
  rfl

end Entries

/-! ## Lines of a layout -/

namespace Layout

theorem leader_feed_not_mem (l : Leader) : '\n' ∉ l.text := by
  have hmarks : '\n' ∉ l.marks := fun hmem => absurd (l.marks_mem _ hmem) (by decide)
  simp [Leader.text, l.indent_line, hmarks, l.gap_line]

theorem feed_not_mem_openingLine (l : Leader) (name : Option BlockName) :
    '\n' ∉ openingLine l name := by
  have hword : '\n' ∉ Marker.opening := by decide
  cases name with
  | none => simp [openingLine, leader_feed_not_mem, hword]
  | some n => simp [openingLine, leader_feed_not_mem, hword, n.text_line]

theorem feed_not_mem_entry (t : Target) : '\n' ∉ Target.escape t.entry := by
  have hentry : '\n' ∉ t.entry := by
    cases t with
    | file pattern ne_nil no_colon line => exact line
    | block pattern name trimmed no_colon line name_trimmed name_line =>
      simp [Target.entry, line, name_line]
  intro hmem
  obtain ⟨c, hc, hmem⟩ := List.mem_flatMap.1 hmem
  have hcases : '\n' = '\\' ∨ '\n' = c := by
    unfold Target.escapeChar at hmem
    split at hmem
    · simpa using hmem
    · exact .inr (List.mem_singleton.1 hmem)
  rcases hcases with heq | rfl
  · cases heq
  · exact hentry hc

theorem feed_not_mem_listText (targets : List Target) : '\n' ∉ Target.listText targets := by
  fun_induction Target.listText targets with
  | case1 => decide
  | case2 target => simp [feed_not_mem_entry]
  | case3 target next targets ih => simp [feed_not_mem_entry, ih]

theorem feed_not_mem_closingLine (l : Leader) (targets : List Target) :
    '\n' ∉ closingLine l targets := by
  have hword : '\n' ∉ Marker.closing := by decide
  simp [closingLine, closingText, leader_feed_not_mem, hword, feed_not_mem_listText]

theorem feed_not_mem {layout : Layout} {l : Text} (h : l ∈ layout.lines) : '\n' ∉ l := by
  induction layout with
  | done => cases h
  | filler line rest ih =>
    rcases List.mem_cons.1 h with rfl | h
    · exact line.text_line
    · exact ih h
  | block opener name inside closer targets rest ihInside ihRest =>
    simp only [lines, List.mem_cons, List.mem_append] at h
    rcases h with rfl | h | rfl | h
    · exact feed_not_mem_openingLine opener name
    · exact ihInside h
    · exact feed_not_mem_closingLine closer targets
    · exact ihRest h

/-! A line with a marker ends in a letter or in a parenthesis, so that it keeps its end. -/

theorem dropReturn_openingLine (l : Leader) (name : Option BlockName) :
    Text.dropReturn (openingLine l name) = openingLine l name := by
  have hword : Marker.opening.getLast? = some 'd' := by decide
  refine Text.dropReturn_of_getLast? ?_
  cases name with
  | none => simp [openingLine, List.getLast?_append, hword]
  | some n => simp [openingLine, List.getLast?_cons]

theorem getLast?_listText (targets : List Target) :
    (Target.listText targets).getLast? = some ')' := by
  fun_induction Target.listText targets with
  | case1 => rfl
  | case2 target => simp
  | case3 target next targets ih => simp [List.getLast?_append, List.getLast?_cons, ih]

theorem dropReturn_closingLine (l : Leader) (targets : List Target) :
    Text.dropReturn (closingLine l targets) = closingLine l targets := by
  refine Text.dropReturn_of_getLast? ?_
  simp [closingLine, closingText, List.getLast?_append, List.getLast?_cons, getLast?_listText]

end Layout

/-! ## Findings -/

namespace Scan

variable {here : Nat} {opened : List OpenBlock} {ls : List Text}

theorem findings_congr {s s' : Scan} (h : s.next? = s'.next?) : s.findings = s'.findings := by
  rw [findings_eq, findings_eq s', h]

theorem findings_filler (line : Filler) :
    findings ⟨here, Text.dropReturn line.text :: ls, opened⟩ = findings ⟨here + 1, ls, opened⟩ := by
  -- Without its carriage return the line still has no marker.
  have hpart : Text.dropReturn line.text <:+: line.text :=
    (Text.dropReturn_prefix line.text).isInfix
  obtain ⟨rest, hread, hafter⟩ := Marker.readOpening_of_not_includes
    (Text.includes_part hpart line.no_opening) (Text.includes_part hpart line.no_closing)
  refine findings_congr ?_
  simp [next?, advance, hread, hafter, openOn]

theorem findings_openingLine (l : Leader) (name : Option BlockName) :
    findings ⟨here, openingLine l name :: ls, opened⟩ =
      findings ⟨here + 1, ls, ⟨name.map (·.text), here + 1⟩ :: opened⟩ := by
  have hafter : Marker.afterClosing? [] = none := rfl
  refine findings_congr ?_
  simp [next?, advance, Marker.readOpening_openingLine, hafter, openOn]

theorem findings_closingLine (l : Leader) (targets : List Target) (b : OpenBlock) :
    findings ⟨here, closingLine l targets :: ls, b :: opened⟩ =
      .block ⟨b.name, ⟨b.line, here + 1⟩, targets.map (·.obligation (here + 1))⟩ ::
        findings ⟨here + 1, ls, opened⟩ := by
  rw [findings_eq]
  simp [next?, advance, Marker.readOpening_closingLine, Marker.afterClosing?_closing, openOn, close,
    Entries.read_listText]

/-- A layout is read up to its end, whatever blocks are open around it and whatever follows. -/
theorem findings_layout (layout : Layout) (here : Nat) (opened : List OpenBlock) (ls : List Text) :
    findings ⟨here, layout.lines.map Text.dropReturn ++ ls, opened⟩ =
      (layout.blocks (here + 1)).map .block ++
        findings ⟨here + layout.lines.length, ls, opened⟩ := by
  induction layout generalizing here opened ls with
  | done => rfl
  | filler line rest ih =>
    have hend : here + (rest.lines.length + 1) = here + 1 + rest.lines.length := by omega
    rw [Layout.lines, List.map_cons, List.cons_append, findings_filler, ih, Layout.blocks,
      List.length_cons, hend]
  | block opener name inside closer targets rest ihInside ihRest =>
    have hlast : here + 1 + inside.lines.length + 1 = here + 1 + 1 + inside.lines.length := by omega
    have hend : here + (Layout.block opener name inside closer targets rest).lines.length =
        here + 1 + inside.lines.length + 1 + rest.lines.length := by
      simp only [Layout.lines, List.length_cons, List.length_append]
      omega
    rw [hend, Layout.lines, List.map_cons, List.map_append, List.map_cons, List.cons_append,
      List.append_assoc, List.cons_append, Layout.dropReturn_openingLine,
      Layout.dropReturn_closingLine, findings_openingLine, ihInside, findings_closingLine, ihRest,
      Layout.blocks]
    simp only [List.map_append, List.map_cons, List.append_assoc, List.cons_append, hlast]

end Scan

/-- Reading undoes writing: the findings of a text with some layout are the blocks of the layout,
the inner ones before those around them, and nothing is wrong. -/
theorem Layout.findings_render (layout : Layout) :
    findings layout.render = (layout.blocks 1).map .block := by
  have hlayout := Scan.findings_layout layout 0 [] []
  rw [List.append_nil] at hlayout
  rw [findings, Scan.start, render, Text.fileLines_unlines fun l => feed_not_mem, hlayout]
  exact List.append_nil _

example :
    let leader : Leader := ⟨[' '], ['#'], [' '], List.forall_mem_singleton.2 rfl,
      List.forall_mem_singleton.2 rfl, List.forall_mem_singleton.2 rfl, by decide, by decide⟩
    let name : BlockName := ⟨['n'], by decide, by decide, by decide⟩
    let file : Target := .file [' ', ','] (by decide) (by decide) (by decide)
    let inner : Layout := .block leader (some name) .done leader [] .done
    findings (Layout.block leader none inner leader [file] .done).render =
      [.block ⟨some ['n'], ⟨2, 3⟩, []⟩, .block ⟨none, ⟨1, 4⟩, [⟨[' ', ','], none, 4⟩]⟩] := by
  decide

end Lockstep
