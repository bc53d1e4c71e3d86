import Mathlib.Data.List.Basic
import Lockstep.Proofs.Memory
import Lockstep.Proofs.Numbers

/-!
# Which ranges a patch touches

A patch is searched hunk by hunk: hunks that end before the range are passed
over, and the first one that starts behind it ends the search.

* `hunksTouch_iff`: for hunks in ascending order, if passing over loses nothing,
  the search finds out whether a hunk that starts no later than the range ends adds
  or removes a line of the range.
* `Splice`, `Consistent`: the hunks without context that lead from one file to
  another, as numbers: where each lies in the old file and, shifted by what the
  earlier ones add, in the new one.
* `touches_splices_iff`: what a session says about a range, for such hunks.  Added
  lines count by their number in the new file, removed lines by their number in the
  *old* one, and these differ by the shift: `shifted_cut_not_touched` is a line
  removed from the middle of a range that does not count.
-/

namespace Lockstep

/-! ## The search -/

theorem hunksTouch_iff {range : LineRange} {hunks : List Hunk}
    (hsorted : hunks.Pairwise fun g h =>
      h.newStart.atMost range.last = true → g.newStart.atMost range.last = true)
    (hskip : ∀ h ∈ hunks, h.endsBefore range = true → h.changes range = false) :
    hunksTouch range hunks = true ↔
      ∃ h ∈ hunks, h.newStart.atMost range.last = true ∧ h.changes range = true := by
  induction hunks with
  | nil => simp [hunksTouch]
  | cons h hunks ih =>
    obtain ⟨hfirst, hrest⟩ := List.pairwise_cons.1 hsorted
    have ih := ih hrest fun g hg => hskip g (List.mem_cons_of_mem _ hg)
    rw [hunksTouch, List.exists_mem_cons_iff]
    by_cases hstart : h.newStart.atMost range.last = true
    · rw [if_neg (by simp [hstart])]
      by_cases hend : h.endsBefore range = true
      · have hnone := hskip h List.mem_cons_self hend
        rw [if_pos hend, ih]
        simp [hnone]
      · rw [if_neg hend, Bool.or_eq_true, ih]
        simp [hstart]
    · -- no later hunk can start early enough either
      rw [if_pos (by simpa using hstart)]
      constructor
      · rintro ⟨⟩
      · rintro (⟨hearly, -⟩ | ⟨g, hg, hearly, -⟩)
        · exact absurd hearly hstart
        · exact absurd (hfirst g hg hearly) hstart

/-! ## Hunks without context -/

/-- A hunk without context: some lines of the old file, maybe none, make way for some lines of the
new one.  A side without lines names the line before the gap. -/
structure Splice where
  oldStart : Nat
  oldLines : Nat
  newStart : Nat
  newLines : Nat
  nonempty : 0 < oldLines + newLines := by omega
  old_pos : 0 < oldLines → 0 < oldStart := by omega
  new_pos : 0 < newLines → 0 < newStart := by omega
  old_le : oldStart + oldLines ≤ 2 ^ 53 := by omega
  new_le : newStart + newLines ≤ 2 ^ 53 := by omega

namespace Splice

/-- How many lines of the old file stand before the hunk. -/
def oldBefore (h : Splice) : Nat := if h.oldLines = 0 then h.oldStart else h.oldStart - 1

/-- How many lines of the new file stand before the hunk. -/
def newBefore (h : Splice) : Nat := if h.newLines = 0 then h.newStart else h.newStart - 1

/-- The numbers of the lines that the hunk adds, in the new file. -/
def added (h : Splice) : List Nat := List.range' h.newStart h.newLines

/-- The numbers of the lines that the hunk removes, in the old file. -/
def removed (h : Splice) : List Nat := List.range' h.oldStart h.oldLines

/-- The hunk as it stands in a patch. -/
def hunk (h : Splice) : Hunk where
  oldStart := .finite h.oldStart
  oldLines := h.oldLines
  newStart := .finite h.newStart
  newLines := h.newLines
  added := h.added.map .finite
  removed := h.removed.map .finite

/-- The hunk adds a line of the range. -/
def AddsIn (range : LineRange) (h : Splice) : Prop :=
  ∃ n ∈ h.added, range.first ≤ n ∧ n ≤ range.last

/-- The hunk removes a line whose number in the old file lies in the range. -/
def RemovesIn (range : LineRange) (h : Splice) : Prop :=
  ∃ n ∈ h.removed, range.first ≤ n ∧ n ≤ range.last

/-- The hunk only removes lines, and the gap lies inside the range of the new file. -/
def CutsInside (range : LineRange) (h : Splice) : Prop :=
  h.newLines = 0 ∧ range.first ≤ h.newStart ∧ h.newStart < range.last

end Splice

/-- Hunks that lead from one file to another, where the hunks before them add `shift` lines on the
whole: each lies in the new file where it lies in the old one, shifted so far, and between two hunks
there is a line that stays. -/
def ConsistentFrom (shift : Int) : List Splice → Prop
  | [] => True
  | h :: hs =>
    (h.newBefore : Int) = h.oldBefore + shift ∧
      (∀ g ∈ hs.head?, h.oldBefore + h.oldLines < g.oldBefore) ∧
      ConsistentFrom (shift + h.newLines - h.oldLines) hs

/-- All the hunks that lead from one file to another. -/
def Consistent (hs : List Splice) : Prop := ConsistentFrom 0 hs

namespace Splice

theorem changes_hunk_iff {range : LineRange} {h : Splice} :
    h.hunk.changes range = true ↔ h.AddsIn range ∨ h.RemovesIn range := by
  simp [Hunk.changes, hunk, Hunk.isIn, AddsIn, RemovesIn, LineNumber.atMost, LineNumber.atLeast]

/-- A hunk that ends before a range on both sides changes no line of it. -/
theorem changes_of_endsBefore {range : LineRange} {h : Splice}
    (hend : h.hunk.endsBefore range = true) : h.hunk.changes range = false := by
  rw [← Bool.not_eq_true, changes_hunk_iff]
  simp only [Hunk.endsBefore, hunk, LineNumber.plus_finite h.new_le,
    LineNumber.plus_finite h.old_le, Bool.and_eq_true, Bool.not_eq_true', ← Bool.not_eq_true,
    LineNumber.atLeast_finite] at hend
  rintro (⟨n, hn, hlow, -⟩ | ⟨n, hn, hlow, -⟩)
  · have := (List.mem_range'_1.1 hn).2
    omega
  · have := (List.mem_range'_1.1 hn).2
    omega

theorem newBefore_le (h : Splice) : h.newBefore ≤ h.newStart := by
  unfold newBefore
  split <;> omega

theorem newStart_le (h : Splice) : h.newStart ≤ h.newBefore + 1 := by
  unfold newBefore
  split <;> omega

end Splice

/-- Behind a hunk the next one starts further down in the new file as well. -/
theorem ConsistentFrom.newBefore_lt {shift : Int} {g h : Splice} {hs : List Splice}
    (hc : ConsistentFrom shift (g :: h :: hs)) : g.newBefore + g.newLines < h.newBefore := by
  obtain ⟨hg, hgap, hh, -⟩ := hc
  have := hgap h rfl
  omega

theorem ConsistentFrom.sorted {shift : Int} {hs : List Splice} (hc : ConsistentFrom shift hs) :
    hs.Pairwise fun g h => g.newStart ≤ h.newStart := by
  induction hs generalizing shift with
  | nil => exact .nil
  | cons g hs ih =>
    have hrest := ih hc.2.2
    refine List.pairwise_cons.2 ⟨?_, hrest⟩
    cases hs with
    | nil => simp
    | cons h hs =>
      have hnext : g.newStart ≤ h.newStart := by
        have hlt := hc.newBefore_lt
        have := g.newStart_le
        have := h.newBefore_le
        omega
      intro k hk
      rcases List.mem_cons.1 hk with rfl | hk
      · exact hnext
      · exact Nat.le_trans hnext ((List.pairwise_cons.1 hrest).1 k hk)

theorem hunksTouch_splices_iff {hs : List Splice} (hc : Consistent hs) {range : LineRange} :
    hunksTouch range (hs.map Splice.hunk) = true ↔
      ∃ h ∈ hs, h.AddsIn range ∨ (h.newStart ≤ range.last ∧ h.RemovesIn range) := by
  have hsorted : (hs.map Splice.hunk).Pairwise fun g h =>
      h.newStart.atMost range.last = true → g.newStart.atMost range.last = true := by
    rw [List.pairwise_map]
    refine hc.sorted.imp ?_
    intro g h hle hstart
    exact LineNumber.atMost_finite.2 (Nat.le_trans hle (LineNumber.atMost_finite.1 hstart))
  have hskip : ∀ h ∈ hs.map Splice.hunk, h.endsBefore range = true → h.changes range = false := by
    intro h hh
    obtain ⟨g, -, rfl⟩ := List.mem_map.1 hh
    exact Splice.changes_of_endsBefore
  rw [hunksTouch_iff hsorted hskip]
  constructor
  · rintro ⟨_, hmem, hstart, hchanges⟩
    obtain ⟨h, hh, rfl⟩ := List.mem_map.1 hmem
    refine ⟨h, hh, (Splice.changes_hunk_iff.1 hchanges).imp_right fun hrem => ⟨?_, hrem⟩⟩
    exact LineNumber.atMost_finite.1 hstart
  · rintro ⟨h, hh, hcase⟩
    refine ⟨h.hunk, List.mem_map_of_mem hh, LineNumber.atMost_finite.2 ?_,
      Splice.changes_hunk_iff.2 (hcase.imp_right And.right)⟩
    rcases hcase with ⟨n, hn, -, hle⟩ | ⟨hstart, -⟩
    · exact Nat.le_trans (List.mem_range'_1.1 hn).1 hle
    · exact hstart

/-- What a session says about a range of a modified file whose patch leads from one file to another:
it is touched if a line is added in it, or if a line is removed whose number in the old file lies in
it, by a hunk that starts no later than the range ends. -/
theorem touches_splices_iff {change : Change} {path : Text} {listed : List ChangedFile}
    {patch : FilePatch} {hs : List Splice}
    (hlisted : (change.source.changedFiles ()).outcome = .ok listed)
    (hstatus : listedStatus listed path = some .modified)
    (hpatch : (change.source.filePatch path ()).outcome = .ok (some patch))
    (hhunks : patch.hunks = hs.map Splice.hunk) (hc : Consistent hs) (range : LineRange)
    {s : SessionState} (hs' : s.memo.Faithful change.source) :
    ∃ touched, (Session.touches change path range s).outcome = .ok touched ∧
      (touched = true ↔
        ∃ h ∈ hs, h.AddsIn range ∨ (h.newStart ≤ range.last ∧ h.RemovesIn range)) := by
  have hsettles := Session.settles_touches hlisted hpatch range
  refine ⟨_, hsettles.outcome hs', ?_⟩
  rw [← hunksTouch_splices_iff hc, ← hhunks]
  simp only [touchedBy, hstatus, Option.any_some, FilePatch.touches]

/-! ## The shift shows -/

/-- A change to one file with the given hunks. -/
def spliceChange (hs : List Splice) : Change where
  source :=
    { root := none
      exemptPatterns := []
      changedFiles := pure [⟨['f'], .modified⟩]
      filePatch := fun _ => pure (some ⟨['f'], .modified, hs.map Splice.hunk⟩)
      treeFiles := pure [['f']] }
  exempt := []

/-- Ten new lines at the top of a file, and further down one line less. -/
def shiftedCut : List Splice :=
  [{ oldStart := 0, oldLines := 0, newStart := 1, newLines := 10 },
    { oldStart := 5, oldLines := 1, newStart := 14, newLines := 0 }]

theorem consistent_shiftedCut : Consistent shiftedCut := by
  refine ⟨by decide, ?_, by decide, ?_, trivial⟩
  · rintro g ⟨⟩
    decide
  · rintro g ⟨⟩

/-- The hunks above touch the lines 5 to 20. -/
theorem touches_splices_iff_shiftedCut :
    Consistent shiftedCut ∧
      (Session.touches (spliceChange shiftedCut) ['f'] ⟨5, 20⟩ {}).outcome = .ok true := by
  have hlisted : ((spliceChange shiftedCut).source.changedFiles ()).outcome =
      .ok [⟨['f'], .modified⟩] := rfl
  have hpatch : ((spliceChange shiftedCut).source.filePatch ['f'] ()).outcome =
      .ok (some ⟨['f'], .modified, shiftedCut.map Splice.hunk⟩) := rfl
  have hremoved : ∃ h ∈ shiftedCut,
      h.AddsIn ⟨5, 20⟩ ∨ (h.newStart ≤ 20 ∧ h.RemovesIn ⟨5, 20⟩) :=
    ⟨_, List.mem_cons_of_mem _ List.mem_cons_self, .inr ⟨by decide, 5, by decide, by decide⟩⟩
  obtain ⟨touched, hout, hiff⟩ := touches_splices_iff hlisted (by decide) hpatch rfl
    consistent_shiftedCut ⟨5, 20⟩ (s := {}) (Memo.faithful_empty _)
  refine ⟨consistent_shiftedCut, ?_⟩
  rw [hout, hiff.2 hremoved]

/-- A range of the new file need not be touched although lines were removed from the middle of it:
the removed line was the fifth of the old file, and the range is 12 to 16. -/
theorem shifted_cut_not_touched :
    Consistent shiftedCut ∧ listedStatus [⟨['f'], .modified⟩] ['f'] = some .modified ∧
      ¬ ((Session.touches (spliceChange shiftedCut) ['f'] ⟨12, 16⟩ {}).outcome = .ok true ↔
        ∃ h ∈ shiftedCut, h.AddsIn ⟨12, 16⟩ ∨ h.CutsInside ⟨12, 16⟩) := by
  refine ⟨consistent_shiftedCut, by decide, fun hiff => ?_⟩
  have hnot : (Session.touches (spliceChange shiftedCut) ['f'] ⟨12, 16⟩ {}).outcome =
      .ok false := by
    decide +kernel
  have hcut : ∃ h ∈ shiftedCut, h.AddsIn ⟨12, 16⟩ ∨ h.CutsInside ⟨12, 16⟩ :=
    ⟨_, List.mem_cons_of_mem _ List.mem_cons_self, .inr ⟨rfl, by decide, by decide⟩⟩
  rw [hnot] at hiff
  cases hiff.2 hcut

end Lockstep
