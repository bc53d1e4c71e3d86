import Lockstep.Block.Scan
import Lockstep.Proofs.Path
import Lockstep.Proofs.Text

/-!
# Ends of lines

A line ends in a line feed, or in a carriage return and a line feed, and one text may
have ends of both kinds.  This file shows that the findings of a text do not depend on
how its lines end, and not on whether the last one has an end at all
(`findings_withEnds`).

* `Text.withEnds`: a text with its ends written as somebody likes.
* `Text.lines_withEnds`: its lines are what stands between the line feeds of the text.
* `Text.fileLines_withEnds_end`: a last end adds no line, unless there is nothing to end.
-/

namespace Lockstep

namespace Text

/-- The text in which the line feed number `i`, counted from 0, is written as the end `ends i`. -/
def withEnds (ends : Nat → LineEnd) : Text → Text
  | [] => []
  | c :: t =>
    if c = '\n' then (ends 0).text ++ withEnds (fun i => ends (i + 1)) t
    else c :: withEnds ends t

theorem lines_end (e : LineEnd) (t : Text) : lines (e.text ++ t) = [] :: lines t := by
  cases e with
  | feed => exact lines_append feed_not_mem_nil t
  | returnFeed => exact @lines_append ['\r'] (by decide) t

theorem consHead_append (c : Char) {pieces : List Text} (h : pieces ≠ []) (more : List Text) :
    consHead c (pieces ++ more) = consHead c pieces ++ more := by
  cases pieces with
  | nil => exact absurd rfl h
  | cons piece pieces => rfl

theorem splitOn_ne_nil (sep : Char) (t : Text) : splitOn sep t ≠ [] := by
  rw [splitOn_eq_splitOn]
  exact List.splitOn_ne_nil sep t

/-- The lines are what stands between the line feeds, also before a text that starts with an end. -/
theorem lines_withEnds {t : Text} (h : '\r' ∉ t) (ends : Nat → LineEnd) {rest : Text}
    {later : List Text} (hrest : lines rest = [] :: later) :
    lines (withEnds ends t ++ rest) = splitOn '\n' t ++ later := by
  induction t generalizing ends with
  | nil => exact hrest
  | cons c t ih =>
    rw [List.mem_cons, not_or] at h
    rw [withEnds, splitOn]
    by_cases hc : c = '\n'
    · rw [if_pos hc, if_pos hc, List.append_assoc, lines_end, ih h.2, List.cons_append]
    · have hreturn : c ≠ '\r' := Ne.symm h.1
      rw [if_neg hc, if_neg hc, List.cons_append, lines_cons hc fun hboth => hreturn hboth.1,
        ih h.2, consHead_append c (splitOn_ne_nil '\n' t)]

theorem fileLines_withEnds {t : Text} (h : '\r' ∉ t) (ends : Nat → LineEnd) :
    fileLines (withEnds ends t) = dropEmptyLast (splitOn '\n' t) := by
  have hempty : lines [] = [] :: [] := rfl
  have hlines := lines_withEnds h ends hempty
  rw [List.append_nil, List.append_nil] at hlines
  rw [fileLines, hlines]

theorem fileLines_withEnds_end {t : Text} (h : '\r' ∉ t) (ends : Nat → LineEnd) (last : LineEnd) :
    fileLines (withEnds ends t ++ last.text) = splitOn '\n' t := by
  have hlast : lines last.text = [[], []] := by
    rw [← List.append_nil last.text, lines_end]
    rfl
  rw [fileLines, lines_withEnds h ends hlast, dropEmptyLast, if_pos (by simp), List.dropLast_concat]

theorem withEnds_feed (t : Text) : withEnds (fun _ => .feed) t = t := by
  induction t with
  | nil => rfl
  | cons c t ih =>
    rw [withEnds]
    by_cases hc : c = '\n'
    · rw [if_pos hc, ih, hc]
      rfl
    · rw [if_neg hc, ih]

/-- A text that does not end in a line feed has something in its last line. -/
theorem dropEmptyLast_splitOn {t : Text} (hne : t ≠ []) (hlast : t.getLast? ≠ some '\n') :
    dropEmptyLast (splitOn '\n' t) = splitOn '\n' t := by
  obtain ⟨start, c, rfl⟩ : ∃ start c, t = start ++ [c] :=
    ⟨_, _, (List.dropLast_concat_getLast hne).symm⟩
  have hc : '\n' ∉ [c] := by
    intro hmem
    rw [← List.mem_singleton.1 hmem] at hlast
    exact hlast List.getLast?_concat
  obtain ⟨front, piece, -, happend⟩ := exists_splitOn_append '\n' start
  rw [happend [c] hc, dropEmptyLast, List.getLast?_concat]
  simp

end Text

/-- A text without carriage returns has the same findings, down to the lines of the errors, if some
of its line feeds get a carriage return before them.  And if it does not end in a line feed, it
still has the same findings with an end of either kind behind it. -/
theorem findings_withEnds {text : Text} (h : '\r' ∉ text) (ends : Nat → LineEnd) :
    findings (text.withEnds ends) = findings text ∧
      (text.getLast? ≠ some '\n' →
        ∀ last : LineEnd, findings (text.withEnds ends ++ last.text) = findings text) := by
  have hlines := Text.fileLines_withEnds h (fun _ => .feed)
  rw [Text.withEnds_feed] at hlines
  refine ⟨?_, fun hlast last => ?_⟩
  · rw [findings, findings, Scan.start, Scan.start, Text.fileLines_withEnds h, hlines]
  · by_cases hne : text = []
    · -- an empty file gets an empty line
      subst hne
      cases last <;> rfl
    · rw [findings, findings, Scan.start, Scan.start, Text.fileLines_withEnds_end h, hlines,
        Text.dropEmptyLast_splitOn hne hlast]

/-- A list that runs over several lines, one of them joined to the next, and behind it a marker that
is in error.  The last line has no end. -/
def joinedList : Text := "# if-changed\n# then-change(a\\\n# b,\n# c)\n# then-change".toList

/-- Every other line feed gets a carriage return, and the last line an end. -/
theorem findings_withEnds_joined :
    let mixed : Text := "# if-changed\r\n# then-change(a\\\n# b,\r\n# c)\n# then-change\r\n".toList
    joinedList.withEnds (fun i => if i % 2 = 0 then .returnFeed else .feed) ++
      LineEnd.returnFeed.text = mixed ∧
      findings mixed = findings joinedList ∧
      findings joinedList =
        [.block ⟨none, ⟨1, 2⟩, [⟨['a', 'b'], none, 2⟩, ⟨['c'], none, 2⟩]⟩,
          .broken [.noOpening 5, .noList 5]] := by
  intro mixed
  have hmixed : joinedList.withEnds (fun i => if i % 2 = 0 then .returnFeed else .feed) ++
      LineEnd.returnFeed.text = mixed := by decide +kernel
  have hsame := (@findings_withEnds joinedList (by decide) fun i =>
    if i % 2 = 0 then .returnFeed else .feed).2 (by decide) .returnFeed
  rw [hmixed] at hsame
  exact ⟨hmixed, hsame, by decide +kernel⟩

end Lockstep
