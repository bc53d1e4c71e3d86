import Lockstep.Proofs.Shortcuts
import Lockstep.Proofs.Diff.Numbering

/-!
# What the search finds in a patch that was read

The search for a touched range passes over hunks and ends early, and both are right only
if the lines of a hunk lie in what it covers.  This file shows that they do in every hunk
that is read from a text, and draws the conclusion (`touches_readPatches_iff`).

* `LineNumber.next_plus_le`: numbers that cannot be held are rounded, but counting on line
  by line never leads behind the sum.  So nothing has to be supposed about the numbers in
  the headers.
* `Counts`: what is known of one side of a hunk while its edits are walked.  One edit keeps
  it (`Counts.next`, `Counts.mark`), and so does the whole walk (`Hunk.contained_walk`).
* `reached`: the hunks that the search comes to before it ends.
-/

namespace Lockstep

namespace LineNumber

/-! ## The order along a count -/

variable {a b c : LineNumber}

theorem Le.refl (a : LineNumber) : a.Le a := by
  cases a with
  | finite n => exact Nat.le_refl n
  | infinite => trivial

theorem Le.trans (hab : a.Le b) (hbc : b.Le c) : a.Le c := by
  cases c with
  | infinite => cases a <;> trivial
  | finite n =>
    cases b with
    | infinite => cases hbc
    | finite m =>
      cases a with
      | infinite => cases hab
      | finite k => exact Nat.le_trans hab hbc

/-- A number that can be held, or an infinite one if it is not below the limit. -/
def capped (limit n : Nat) : LineNumber := if n < limit then .finite n else .infinite

theorem ofNat_eq_capped (n : Nat) : ofNat n = capped (Nat.pow 2 1024) (round n) := rfl

theorem capped_le_capped (limit : Nat) {m n : Nat} (h : m ≤ n) :
    (capped limit m).Le (capped limit n) := by
  unfold capped
  by_cases hn : n < limit
  · rw [if_pos hn, if_pos (Nat.lt_of_le_of_lt h hn)]
    exact h
  · rw [if_neg hn]
    split <;> trivial

-- The two numbers are named, since `Le` on them would be evaluated.
theorem le_of_eq_ofNat {m n : Nat} (ha : a = ofNat m) (hb : b = ofNat n) (h : round m ≤ round n) :
    a.Le b := by
  rw [ofNat_eq_capped] at ha hb
  generalize Nat.pow 2 1024 = limit at ha hb
  subst ha hb
  exact capped_le_capped limit h

theorem eq_of_ofNat {k n : Nat} (h : ofNat n = .finite k) : round n = k := by
  rw [ofNat_eq_capped] at h
  generalize Nat.pow 2 1024 = limit at h
  unfold capped at h
  split at h
  · exact LineNumber.finite.inj h
  · cases h

theorem Le.plus (h : a.Le b) {m n : Nat} (hmn : m ≤ n) : (a.plus m).Le (b.plus n) := by
  cases b with
  | infinite => cases a.plus m <;> trivial
  | finite l =>
    cases a with
    | infinite => cases h
    | finite k =>
      have hkl : k ≤ l := h
      have hround : round (k + m) ≤ round (l + n) := round_le_round (by omega)
      generalize hx : (finite k).plus m = x
      generalize hy : (finite l).plus n = y
      rw [LineNumber.plus] at hx hy
      exact le_of_eq_ofNat hx.symm hy.symm hround

/-- A line number that stands for itself. -/
structure IsHeld (a : LineNumber) : Prop where
  plus_zero : a.plus 0 = a

theorem isHeld_ofNat (n : Nat) : (ofNat n).IsHeld := by
  have hround : ofNat (round n) = ofNat n := by rw [ofNat_eq_capped, round_round, ofNat_eq_capped]
  constructor
  cases h : ofNat n with
  | infinite => rfl
  | finite k =>
    rw [plus, Nat.add_zero, ← eq_of_ofNat h, hround, h, eq_of_ofNat h]

theorem isHeld_ofDigits (digits : Text) : (ofDigits digits).IsHeld := isHeld_ofNat _

theorem IsHeld.le_plus (h : a.IsHeld) (n : Nat) : a.Le (a.plus n) := by
  have hle := (Le.refl a).plus (Nat.zero_le n)
  rwa [h.plus_zero] at hle

/-- Counting line by line does not lead behind the sum. -/
theorem next_plus_le (a : LineNumber) (n : Nat) : (a.plus n).next.Le (a.plus (n + 1)) := by
  cases a with
  | infinite => trivial
  | finite k =>
    generalize hsum : (finite k).plus (n + 1) = sum
    rw [plus] at hsum ⊢
    cases h : ofNat (k + n) with
    | infinite => exact le_of_eq_ofNat h.symm hsum.symm (round_le_round (Nat.le_succ (k + n)))
    | finite r =>
      have hr : round (k + n) = r := eq_of_ofNat h
      generalize hnext : (finite r).next = line
      rw [next, plus] at hnext
      refine le_of_eq_ofNat hnext.symm hsum.symm ?_
      rw [← hr]
      exact round_succ_round_le (k + n)

end LineNumber

/-! ## Counting the lines of a hunk -/

/-- What is known of one side of a hunk while its edits are walked: from `start` on it covers so
many lines and has come to `line`, and the lines that were marked lie in what it covers. -/
structure Counts (start line : LineNumber) (covered : Nat) (marked : List LineNumber) : Prop where
  held : start.IsHeld
  start_le : start.Le line
  le_end : line.Le (start.plus covered)
  inside : ∀ n ∈ marked, start.Le n ∧ n.Le (start.plus covered)

namespace Counts

variable {start line : LineNumber} {covered : Nat} {marked : List LineNumber}

theorem begin (h : start.IsHeld) : Counts start start 0 [] :=
  ⟨h, .refl start, h.le_plus 0, by simp⟩

/-- One line more is covered. -/
theorem next (h : Counts start line covered marked) :
    Counts start line.next (covered + 1) marked where
  held := h.held
  start_le := (h.held.le_plus 1).trans (h.start_le.plus (Nat.le_refl 1))
  le_end := (h.le_end.plus (Nat.le_refl 1)).trans (start.next_plus_le covered)
  inside n hn :=
    ⟨(h.inside n hn).1, (h.inside n hn).2.trans ((LineNumber.Le.refl start).plus (Nat.le_succ _))⟩

/-- One line more is covered and marked. -/
theorem mark (h : Counts start line covered marked) :
    Counts start line.next (covered + 1) (marked ++ [line]) where
  held := h.held
  start_le := h.next.start_le
  le_end := h.next.le_end
  inside := by
    intro n hn
    rcases List.mem_append.1 hn with hn | hn
    · exact h.next.inside n hn
    · rw [List.mem_singleton.1 hn]
      exact ⟨h.start_le, h.le_end.trans ((LineNumber.Le.refl start).plus (Nat.le_succ _))⟩

end Counts

/-- Walking the edits keeps the lines of a hunk in what it covers. -/
theorem Hunk.contained_walk {h : Hunk} {oldLine newLine : LineNumber}
    (hold : Counts h.oldStart oldLine h.oldLines h.removed)
    (hnew : Counts h.newStart newLine h.newLines h.added) (es : List Edit) :
    (h.walk oldLine newLine es).Contained := by
  induction es generalizing h oldLine newLine with
  | nil => exact ⟨hnew.inside, hold.inside⟩
  | cons e es ih =>
    cases e with
    | add => exact ih hold hnew.mark
    | remove => exact ih hold.mark hnew
    | keep => exact ih hold.next hnew.next

/-- Whatever text is read as a diff, the lines of a hunk lie in what it covers. -/
theorem contained_of_mem_readPatches {diff : Text} {p : FilePatch} (hp : p ∈ readPatches diff)
    {h : Hunk} (hh : h ∈ p.hunks) : h.Contained := by
  obtain ⟨f, hf, hfinish⟩ := List.mem_filterMap.1 (mem_of_mem_lastBy hp)
  rw [(FileDraft.of_finish? hfinish).2.2] at hh
  obtain ⟨g, hg, rfl⟩ := List.mem_map.1 hh
  have hmem : g ∈ ((outline diff).foldl DiffDraft.line {}).hunks :=
    List.mem_flatMap.2 ⟨f, List.mem_reverse.1 hf, List.mem_reverse.1 hg⟩
  obtain ⟨-, -, header, -, hold, hnew⟩ := (HunkDraft.readFrom_of_mem hmem).header
  have hold' : g.oldStart.IsHeld := by
    rw [hold]
    exact LineNumber.isHeld_ofDigits _
  have hnew' : g.newStart.IsHeld := by
    rw [hnew]
    exact LineNumber.isHeld_ofDigits _
  exact Hunk.contained_walk (.begin hold') (.begin hnew') _

/-! ## The search -/

/-- The hunks that the search comes to, before the first one that starts behind the range. -/
def reached (range : LineRange) (hunks : List Hunk) : List Hunk :=
  hunks.takeWhile fun h => h.newStart.atMost range.last

/-- The search looks at the hunks that it comes to and does not pass over. -/
theorem hunksTouch_eq_any_reached (range : LineRange) (hunks : List Hunk) :
    hunksTouch range hunks =
      (reached range hunks).any fun h => !h.endsBefore range && h.changes range := by
  induction hunks with
  | nil => rfl
  | cons h hunks ih =>
    rw [hunksTouch, reached, List.takeWhile_cons]
    cases h.newStart.atMost range.last with
    | false => rfl
    | true =>
      rw [if_neg (by simp), if_pos rfl, List.any_cons, ih, reached]
      cases h.endsBefore range <;> simp

/-- Of ascending hunks, those before the first one behind the range are all not behind it. -/
theorem reached_eq_filter {range : LineRange} {hunks : List Hunk}
    (hsorted : hunks.Pairwise fun g h => g.newStart.Le h.newStart) :
    reached range hunks = hunks.filter fun h => h.newStart.atMost range.last := by
  induction hunks with
  | nil => rfl
  | cons h hunks ih =>
    obtain ⟨hfirst, hrest⟩ := List.pairwise_cons.1 hsorted
    rw [reached, List.takeWhile_cons, List.filter_cons]
    by_cases hstart : h.newStart.atMost range.last = true
    · rw [if_pos hstart, if_pos hstart]
      exact congrArg (h :: ·) (ih hrest)
    · rw [if_neg hstart, if_neg hstart, eq_comm, List.filter_eq_nil_iff]
      exact fun g hg hearly => hstart ((hfirst g hg).atMost hearly)

/-- What a session says about a range of a modified file whose patch was read from a diff and has
its hunks in ascending order, whatever else the text of the diff is.  The range is touched exactly
if a hunk that does not start behind it adds or removes a line of it.  A hunk that is passed over
has no line in the range, and the search does not come to exactly those hunks that start behind
it. -/
theorem touches_readPatches_iff {diff : Text} {patch : FilePatch} (hread : patch ∈ readPatches diff)
    (hsorted : patch.hunks.Pairwise fun g h => g.newStart.Le h.newStart) {change : Change}
    {path : Text} {listed : List ChangedFile}
    (hlisted : (change.source.changedFiles ()).outcome = .ok listed)
    (hstatus : listedStatus listed path = some .modified)
    (hpatch : (change.source.filePatch path ()).outcome = .ok (some patch)) (range : LineRange)
    {s : SessionState} (hs : s.memo.Faithful change.source) :
    (∃ touched, (Session.touches change path range s).outcome = .ok touched ∧
      touched = ((reached range patch.hunks).any fun h => !h.endsBefore range && h.changes range) ∧
      (touched = true ↔ ∃ h ∈ patch.hunks,
        h.newStart.atMost range.last = true ∧ (h.AddsIn range ∨ h.RemovesIn range))) ∧
    (∀ h ∈ patch.hunks, h.endsBefore range = true → ¬ h.AddsIn range ∧ ¬ h.RemovesIn range) ∧
    reached range patch.hunks = patch.hunks.filter fun h => h.newStart.atMost range.last := by
  have hskip : ∀ h ∈ patch.hunks, h.endsBefore range = true → h.changes range = false :=
    fun h hh => (contained_of_mem_readPatches hread hh).changes_of_endsBefore
  have htouched : touchedBy listed (some patch) path range = hunksTouch range patch.hunks := by
    simp only [touchedBy, hstatus, Option.any_some, FilePatch.touches]
  refine ⟨⟨_, (Session.settles_touches hlisted hpatch range).outcome hs, ?_, ?_⟩, ?_,
    reached_eq_filter hsorted⟩
  · rw [htouched, hunksTouch_eq_any_reached]
  · rw [htouched, hunksTouch_iff (hsorted.imp fun hle => hle.atMost) hskip]
    simp only [Hunk.changes_iff]
  · intro h hh hend
    rw [← not_or, ← Hunk.changes_iff, hskip h hh hend]
    exact Bool.false_ne_true

/-- A diff with the hunks that drift apart. -/
def driftedDiff : Text :=
  Text.unlines (["--- a/f", "+++ b/f", "@@ -2,0 +3,12 @@"].map String.toList ++
    List.replicate 12 "+new".toList ++ ["@@ -15,2 +26,0 @@", "-old", "-old"].map String.toList)

/-- In the lines 16 to 30 the first hunk is passed over and the second one, which only removes
lines, is found. -/
theorem touches_readPatches_iff_drifted :
    let patch : FilePatch := ⟨['f'], .modified, driftedCut.map Splice.hunk⟩
    patch ∈ readPatches driftedDiff ∧
      (patch.hunks.Pairwise fun g h => g.newStart.Le h.newStart) ∧
      (patch.hunks.map fun h => h.endsBefore ⟨16, 30⟩) = [true, false] ∧
      (Session.touches (spliceChange driftedCut) ['f'] ⟨16, 30⟩ {}).outcome = .ok true := by
  intro patch
  have hread : patch ∈ readPatches driftedDiff := by decide +kernel
  have hlisted : ((spliceChange driftedCut).source.changedFiles ()).outcome =
      .ok [⟨['f'], .modified⟩] := rfl
  have hpatch : ((spliceChange driftedCut).source.filePatch ['f'] ()).outcome = .ok (some patch) :=
    rfl
  obtain ⟨⟨touched, hout, -, hiff⟩, -, -⟩ :=
    touches_readPatches_iff hread orderly_driftedCut.new_sorted
    hlisted (by decide) hpatch ⟨16, 30⟩ (s := {}) (Memo.faithful_empty _)
  have hremoves : ∃ h ∈ patch.hunks, h.newStart.atMost 30 = true ∧
      (h.AddsIn ⟨16, 30⟩ ∨ h.RemovesIn ⟨16, 30⟩) :=
    ⟨_, List.mem_cons_of_mem _ List.mem_cons_self, by decide,
      .inr ⟨.finite 16, by decide, by decide⟩⟩
  refine ⟨hread, orderly_driftedCut.new_sorted, by decide +kernel, ?_⟩
  rw [hout, hiff.2 hremoves]

end Lockstep
