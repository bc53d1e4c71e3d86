import Lockstep.Proofs.Diff.Render

/-!
# What the lines of files cannot do

The outline of a diff is made line by line, and all that is kept between two lines
is how many lines of the hunk at hand are still to come (`outlineFrom_cons`).  Of a
line in a hunk only its first character counts, and only as far as it tells lines
that are removed, lines that are added, notes and other lines from each other.

So the words of a file have no influence on what is read: two diffs that differ in
nothing but the words of the lines in hunks, and in notes, have the same patches
(`readPatches_eq_of_reworded`).  This holds of all texts, whether or not the counts
in the headers of hunks fit what follows them.
-/

namespace Lockstep

/-! ## One line -/

/-- What a line of a hunk does, by its first character.  A line that starts with a backslash is a
note and does nothing. -/
def Edit.ofLine? (line : Text) : Option Edit :=
  match line.head? with
  | some '\\' => none
  | some '-' => some .remove
  | some '+' => some .add
  | _ => some .keep

/-- How many lines of the old and the new file are still to come in the hunk at hand.  A count goes
below zero where a hunk has more lines than its header says. -/
structure Remaining where
  old : Int
  new : Int

namespace Remaining

/-- The next line is a line of a hunk. -/
def Inside (r : Remaining) : Prop := 0 < r.old ∨ 0 < r.new

instance (r : Remaining) : Decidable r.Inside := inferInstanceAs (Decidable (0 < r.old ∨ 0 < r.new))

/-- What is still to come behind a line that does this. -/
def take (r : Remaining) : Edit → Remaining
  | .add => { r with new := r.new - 1 }
  | .remove => { r with old := r.old - 1 }
  | .keep => ⟨r.old - 1, r.new - 1⟩

/-- What is still to come behind a line. -/
def after (r : Remaining) (line : Text) : Remaining :=
  if r.Inside then ((Edit.ofLine? line).map r.take).getD r
  else
    match Header.strictHunk? line with
    | some h => ⟨Header.count h.oldLines, Header.count h.newLines⟩
    | none => r

/-- What the outline shows of a line. -/
def shown (r : Remaining) (line : Text) : List Text :=
  if r.Inside then ((Edit.ofLine? line).map fun e => [e.sign]).toList
  else if (Text.after? "diff ".toList line).isSome ∨ line.head? = some '\\' then []
  else [line]

variable {r : Remaining} {l m : Text} {e : Edit}

theorem shown_note (t : Text) : r.shown ('\\' :: t) = [] := by
  have hnote : Edit.ofLine? ('\\' :: t) = none := rfl
  by_cases hin : r.Inside
  · rw [shown, if_pos hin, hnote]
    rfl
  · rw [shown, if_neg hin, if_pos (.inr rfl)]

theorem after_note (t : Text) : r.after ('\\' :: t) = r := by
  have hnote : Edit.ofLine? ('\\' :: t) = none := rfl
  by_cases hin : r.Inside
  · rw [after, if_pos hin, hnote]
    rfl
  · rw [after, if_neg hin]
    rfl

theorem shown_of_ofLine? (hin : r.Inside) (hl : Edit.ofLine? l = some e) :
    r.shown l = [[e.sign]] := by
  rw [shown, if_pos hin, hl]
  rfl

theorem after_of_ofLine? (hin : r.Inside) (hl : Edit.ofLine? l = some e) :
    r.after l = r.take e := by
  rw [after, if_pos hin, hl]
  rfl

end Remaining

/-! ## The outline, line by line -/

/-- The header of a hunk starts with an at sign. -/
theorem Header.strictHunk?_eq_none {line : Text} (h : line.head? ≠ some '@') :
    strictHunk? line = none := by
  have hafter : Text.after? "@@ -".toList line = none := by
    cases line with
    | nil => rfl
    | cons c line =>
      have hc : '@' ≠ c := by simpa using Ne.symm h
      show Text.after? ['@', '@', ' ', '-'] (c :: line) = none
      rw [Text.after?, if_neg hc]
  rw [strictHunk?, hafter]
  rfl

/-- The outline goes through a diff line by line: it shows something of each line, and goes on with
what is still to come. -/
theorem outlineFrom_cons (r : Remaining) (l : Text) (ls : List Text) :
    outlineFrom r.old r.new (l :: ls) =
      r.shown l ++ outlineFrom (r.after l).old (r.after l).new ls := by
  rw [outlineFrom, Remaining.shown, Remaining.after]
  by_cases hin : r.Inside
  · have hpos : 0 < r.old ∨ 0 < r.new := hin
    rw [if_pos hpos, if_pos hin, if_pos hin]
    cases l with
    | nil => rfl
    | cons c t =>
      by_cases hnote : c = '\\'
      · subst hnote
        rfl
      by_cases hminus : c = '-'
      · subst hminus
        rfl
      by_cases hplus : c = '+'
      · subst hplus
        rfl
      simp [Edit.ofLine?, hnote, hminus, hplus, Edit.sign, Remaining.take]
  · have hpos : ¬ (0 < r.old ∨ 0 < r.new) := hin
    rw [if_neg hpos, if_neg hin, if_neg hin]
    by_cases hleft : (Text.after? "diff ".toList l).isSome = true ∨ l.head? = some '\\'
    · have hhead : l.head? ≠ some '@' := by
        rcases hleft with hdiff | hnote
        · obtain ⟨rest, hrest⟩ := Option.isSome_iff_exists.1 hdiff
          rw [Text.after?_eq_some hrest]
          simp
        · rw [hnote]
          simp
      rw [if_pos hleft, if_pos hleft, Header.strictHunk?_eq_none hhead]
      rfl
    · rw [if_neg hleft, if_neg hleft]
      cases Header.strictHunk? l with
      | none => rfl
      | some h => rfl

/-! ## Other words -/

/-- The lines of two diffs that differ at most in the words of the lines in hunks, and in notes.
What is still to come of the hunk at hand says which lines are lines of hunks. -/
inductive Reworded : Remaining → List Text → List Text → Prop where
  | nil {r : Remaining} : Reworded r [] []
  /-- A line may stay as it is. -/
  | same {r : Remaining} {ls ms : List Text} (l : Text) (rest : Reworded (r.after l) ls ms) :
      Reworded r (l :: ls) (l :: ms)
  /-- In a hunk there may be any line in its place that does the same. -/
  | other {r : Remaining} {l m : Text} {ls ms : List Text} {e : Edit} (inside : r.Inside)
      (left : Edit.ofLine? l = some e) (right : Edit.ofLine? m = some e)
      (rest : Reworded (r.after l) ls ms) : Reworded r (l :: ls) (m :: ms)
  /-- A note may be left out. -/
  | noteLeft {r : Remaining} {ls ms : List Text} (t : Text) (rest : Reworded r ls ms) :
      Reworded r (('\\' :: t) :: ls) ms
  /-- A note may be put in. -/
  | noteRight {r : Remaining} {ls ms : List Text} (t : Text) (rest : Reworded r ls ms) :
      Reworded r ls (('\\' :: t) :: ms)

/-- Both outlines are the same: line by line they show the same and go on with the same counts. -/
theorem Reworded.outlineFrom_eq {r : Remaining} {ls ms : List Text} (h : Reworded r ls ms) :
    outlineFrom r.old r.new ls = outlineFrom r.old r.new ms := by
  induction h with
  | nil => rfl
  | same l rest ih => rw [outlineFrom_cons, outlineFrom_cons, ih]
  | other inside left right rest ih =>
    rw [Remaining.after_of_ofLine? inside left] at ih
    rw [outlineFrom_cons, outlineFrom_cons, Remaining.shown_of_ofLine? inside left,
      Remaining.shown_of_ofLine? inside right, Remaining.after_of_ofLine? inside left,
      Remaining.after_of_ofLine? inside right, ih]
  | noteLeft t rest ih =>
    rw [outlineFrom_cons, Remaining.shown_note, Remaining.after_note, ih]
    rfl
  | noteRight t rest ih =>
    rw [outlineFrom_cons, Remaining.shown_note, Remaining.after_note, ih]
    rfl

/-- Whatever the lines in the hunks of a diff say, its patches are the same. -/
theorem readPatches_eq_of_reworded {d e : Text} (h : Reworded ⟨0, 0⟩ d.lines e.lines) :
    readPatches d = readPatches e := by
  have houtline : outline d = outline e := h.outlineFrom_eq
  rw [readPatches, readPatches, houtline]

/-- The lines of a diff that breaks off inside a hunk. -/
def brokenOff : List Text :=
  ["--- a/f", "+++ b/f", "@@ -1,9 +1,9 @@", "-old", "\\ No newline", "+new", " kept"].map
    String.toList

/-- The same with lines that look like the headers of another file. -/
def brokenOffImitating : List Text :=
  ["--- a/f", "+++ b/f", "@@ -1,9 +1,9 @@", "--- a/g", "+++ b/g", "\\", "@@ -5 +5 @@"].map
    String.toList

theorem readPatches_eq_of_reworded_imitating :
    Reworded ⟨0, 0⟩ (Text.unlines brokenOff).lines (Text.unlines brokenOffImitating).lines ∧
      readPatches (Text.unlines brokenOff) = readPatches (Text.unlines brokenOffImitating) := by
  have hreworded : Reworded ⟨0, 0⟩ (Text.unlines brokenOff).lines
      (Text.unlines brokenOffImitating).lines := by
    rw [Text.lines_unlines (by decide), Text.lines_unlines (by decide)]
    exact .same _ (.same _ (.same _ (.other (by decide) rfl rfl (.noteLeft _
      (.other (by decide) rfl rfl (.noteRight _ (.other (by decide) rfl rfl
      (.same _ .nil))))))))
  exact ⟨hreworded, readPatches_eq_of_reworded hreworded⟩

end Lockstep
