import Lockstep.Proofs.Block.Nesting
import Lockstep.Proofs.Touch

/-!
# What the shortcuts of the search cost

The search for a touched range takes two shortcuts: it passes over a hunk that ends
before the range, and it ends at the first hunk that starts behind it.  This file
compares it with the plain search through all hunks, and one range with a wider one.

* `Hunk.Contained`, `Orderly`: hunks in ascending order, each with its lines inside of
  what it covers.
* `touches_orderly_iff`: for such hunks passing over loses nothing, but ending early
  does.  A hunk may start behind the range in the new file and still remove a line whose
  number in the *old* file lies in it: `drifted_cut_not_touched`.
* `hunksTouch_widen`: whatever the hunks are, the search in a wider range finds what the
  search in a narrower one finds.  So a touched block touches all blocks around it
  (`touches_widen`).
-/

namespace Lockstep

/-! ## Comparing line numbers -/

namespace LineNumber

variable {a b : LineNumber} {m n : Nat}

/-- The order of line numbers; an infinite one is behind all others. -/
def Le : LineNumber → LineNumber → Prop
  | _, .infinite => True
  | .finite a, .finite b => a ≤ b
  | .infinite, .finite _ => False

instance : DecidableRel Le
  | .infinite, .infinite => .isTrue trivial
  | .finite _, .infinite => .isTrue trivial
  | .finite a, .finite b => Nat.decLe a b
  | .infinite, .finite _ => .isFalse id

theorem Le.atMost (h : a.Le b) (hb : b.atMost m = true) : a.atMost m = true := by
  cases b with
  | infinite => cases hb
  | finite b =>
    cases a with
    | infinite => cases h
    | finite a => exact atMost_finite.2 (Nat.le_trans h (atMost_finite.1 hb))

theorem Le.atLeast (h : a.Le b) (ha : a.atLeast m = true) : b.atLeast m = true := by
  cases b with
  | infinite => rfl
  | finite b =>
    cases a with
    | infinite => cases h
    | finite a => exact atLeast_finite.2 (Nat.le_trans (atLeast_finite.1 ha) h)

theorem atMost_mono (h : m ≤ n) (ha : a.atMost m = true) : a.atMost n = true := by
  cases a with
  | infinite => cases ha
  | finite a => exact atMost_finite.2 (Nat.le_trans (atMost_finite.1 ha) h)

theorem atLeast_anti (h : m ≤ n) (ha : a.atLeast n = true) : a.atLeast m = true := by
  cases a with
  | infinite => rfl
  | finite a => exact atLeast_finite.2 (Nat.le_trans h (atLeast_finite.1 ha))

end LineNumber

/-! ## Hunks with their lines inside -/

namespace Hunk

variable {range : LineRange} {h : Hunk}

/-- The hunk adds a line whose number in the new file lies in the range. -/
def AddsIn (range : LineRange) (h : Hunk) : Prop := ∃ n ∈ h.added, isIn range n = true

/-- The hunk removes a line whose number in the old file lies in the range. -/
def RemovesIn (range : LineRange) (h : Hunk) : Prop := ∃ n ∈ h.removed, isIn range n = true

theorem changes_iff : h.changes range = true ↔ h.AddsIn range ∨ h.RemovesIn range := by
  simp [changes, AddsIn, RemovesIn]

/-- The lines that a hunk adds and removes lie in what it covers of the two files. -/
structure Contained (h : Hunk) : Prop where
  added : ∀ n ∈ h.added, h.newStart.Le n ∧ n.Le (h.newStart.plus h.newLines)
  removed : ∀ n ∈ h.removed, h.oldStart.Le n ∧ n.Le (h.oldStart.plus h.oldLines)

/-- A hunk that ends before a range on both sides changes no line of it. -/
theorem Contained.changes_of_endsBefore (hc : h.Contained) (hend : h.endsBefore range = true) :
    h.changes range = false := by
  rw [endsBefore, Bool.and_eq_true, Bool.not_eq_true', Bool.not_eq_true'] at hend
  rw [← Bool.not_eq_true, changes_iff]
  rintro (⟨n, hn, hin⟩ | ⟨n, hn, hin⟩) <;> rw [isIn, Bool.and_eq_true] at hin
  · have hreach := (hc.added n hn).2.atLeast hin.1
    rw [hend.1] at hreach
    cases hreach
  · have hreach := (hc.removed n hn).2.atLeast hin.1
    rw [hend.2] at hreach
    cases hreach

/-- A hunk that adds a line of a range does not start behind it. -/
theorem Contained.atMost_of_addsIn (hc : h.Contained) (hadds : h.AddsIn range) :
    h.newStart.atMost range.last = true := by
  obtain ⟨n, hn, hin⟩ := hadds
  rw [isIn, Bool.and_eq_true] at hin
  exact (hc.added n hn).1.atMost hin.2

end Hunk

/-- Hunks in ascending order in both files, each with its lines inside of what it covers. -/
structure Orderly (hunks : List Hunk) : Prop where
  old_sorted : hunks.Pairwise fun g h => g.oldStart.Le h.oldStart
  new_sorted : hunks.Pairwise fun g h => g.newStart.Le h.newStart
  contained : ∀ h ∈ hunks, h.Contained

/-- For orderly hunks the search misses nothing but lines that a hunk behind the range removes. -/
theorem Orderly.hunksTouch_iff_early {range : LineRange} {hunks : List Hunk} (ho : Orderly hunks) :
    hunksTouch range hunks = true ↔ ∃ h ∈ hunks,
      h.AddsIn range ∨ (h.RemovesIn range ∧ h.newStart.atMost range.last = true) := by
  rw [hunksTouch_iff (ho.new_sorted.imp fun hle => hle.atMost)
    fun h hh => (ho.contained h hh).changes_of_endsBefore]
  constructor
  · rintro ⟨h, hh, hstart, hchanges⟩
    exact ⟨h, hh, (Hunk.changes_iff.1 hchanges).imp_right fun hremoves => ⟨hremoves, hstart⟩⟩
  · rintro ⟨h, hh, hadds | ⟨hremoves, hstart⟩⟩
    · exact ⟨h, hh, (ho.contained h hh).atMost_of_addsIn hadds, Hunk.changes_iff.2 (.inl hadds)⟩
    · exact ⟨h, hh, hstart, Hunk.changes_iff.2 (.inr hremoves)⟩

/-- What a session says about a range of a modified file with orderly hunks.  It is what a search
through all hunks says exactly if a hunk that starts behind the range removes a line of it only
where another hunk touches the range as well. -/
theorem touches_orderly_iff {change : Change} {path : Text} {listed : List ChangedFile}
    {patch : FilePatch} (hlisted : (change.source.changedFiles ()).outcome = .ok listed)
    (hstatus : listedStatus listed path = some .modified)
    (hpatch : (change.source.filePatch path ()).outcome = .ok (some patch))
    (horderly : Orderly patch.hunks) (range : LineRange) {s : SessionState}
    (hs : s.memo.Faithful change.source) :
    let early := ∃ h ∈ patch.hunks,
      h.AddsIn range ∨ (h.RemovesIn range ∧ h.newStart.atMost range.last = true)
    let late := ∃ h ∈ patch.hunks, h.RemovesIn range ∧ h.newStart.atMost range.last = false
    ∃ touched, (Session.touches change path range s).outcome = .ok touched ∧
      (touched = true ↔ early) ∧
      ((touched = true ↔ ∃ h ∈ patch.hunks, h.AddsIn range ∨ h.RemovesIn range) ↔
        (late → early)) := by
  intro early late
  have hsettles := Session.settles_touches hlisted hpatch range
  have htouched : touchedBy listed (some patch) path range = true ↔ early := by
    simp only [touchedBy, hstatus, Option.any_some, FilePatch.touches]
    exact horderly.hunksTouch_iff_early
  -- a hunk that changes the range starts early enough or too late
  have hsplit : (∃ h ∈ patch.hunks, h.AddsIn range ∨ h.RemovesIn range) ↔ early ∨ late := by
    constructor
    · rintro ⟨h, hh, hadds | hremoves⟩
      · exact .inl ⟨h, hh, .inl hadds⟩
      · cases hstart : h.newStart.atMost range.last with
        | true => exact .inl ⟨h, hh, .inr ⟨hremoves, hstart⟩⟩
        | false => exact .inr ⟨h, hh, hremoves, hstart⟩
    · rintro (⟨h, hh, hcase⟩ | ⟨h, hh, hremoves, -⟩)
      · exact ⟨h, hh, hcase.imp_right And.left⟩
      · exact ⟨h, hh, .inr hremoves⟩
  refine ⟨_, hsettles.outcome hs, htouched, ?_⟩
  rw [htouched, hsplit]
  constructor
  · intro hiff hlate
    exact hiff.2 (.inr hlate)
  · intro himp
    exact ⟨.inl, fun hcase => hcase.elim id himp⟩

/-! ## The drift shows -/

theorem Splice.contained (h : Splice) : h.hunk.Contained where
  added := by
    intro n hn
    obtain ⟨k, hk, rfl⟩ := List.mem_map.1 hn
    obtain ⟨hlow, hhigh⟩ := List.mem_range'_1.1 hk
    rw [hunk, LineNumber.plus_finite h.new_le]
    exact ⟨hlow, Nat.le_of_lt hhigh⟩
  removed := by
    intro n hn
    obtain ⟨k, hk, rfl⟩ := List.mem_map.1 hn
    obtain ⟨hlow, hhigh⟩ := List.mem_range'_1.1 hk
    rw [hunk, LineNumber.plus_finite h.old_le]
    exact ⟨hlow, Nat.le_of_lt hhigh⟩

/-- Twelve new lines near the top of a file, and the old lines 15 and 16 are gone. -/
def driftedCut : List Splice :=
  [⟨2, 0, 3, 12, by decide, by decide, by decide, by decide, by decide⟩,
    ⟨15, 2, 26, 0, by decide, by decide, by decide, by decide, by decide⟩]

theorem consistent_driftedCut : Consistent driftedCut := by
  refine ⟨by decide, ?_, by decide, ?_, trivial⟩
  · rintro g ⟨⟩
    decide
  · rintro g ⟨⟩

theorem orderly_driftedCut : Orderly (driftedCut.map Splice.hunk) where
  old_sorted := by decide
  new_sorted := by decide
  contained := List.forall_mem_map.2 fun h _ => h.contained

/-- The hunks above touch the lines 15 to 30, as the plain search says. -/
theorem touches_orderly_iff_driftedCut :
    Orderly (driftedCut.map Splice.hunk) ∧
      ((Session.touches (spliceChange driftedCut) ['f'] ⟨15, 30⟩ {}).outcome = .ok true ↔
        ∃ h ∈ driftedCut.map Splice.hunk, h.AddsIn ⟨15, 30⟩ ∨ h.RemovesIn ⟨15, 30⟩) := by
  have hlisted : ((spliceChange driftedCut).source.changedFiles ()).outcome =
      .ok [⟨['f'], .modified⟩] := rfl
  have hpatch : ((spliceChange driftedCut).source.filePatch ['f'] ()).outcome =
      .ok (some ⟨['f'], .modified, driftedCut.map Splice.hunk⟩) := rfl
  obtain ⟨touched, hout, -, hexact⟩ :=
    touches_orderly_iff hlisted (by decide) hpatch orderly_driftedCut
    ⟨15, 30⟩ (s := {}) (Memo.faithful_empty _)
  refine ⟨orderly_driftedCut, ?_⟩
  rw [hout, Except.ok.injEq]
  refine hexact.2 fun _ => ⟨_, List.mem_cons_of_mem _ List.mem_cons_self, .inr ⟨?_, by decide⟩⟩
  exact ⟨.finite 15, by decide, by decide⟩

/-- A range need not be touched although a line was removed whose number in the old file lies in it:
the hunk that removes the line starts behind the range, behind line 26 of the new file. -/
theorem drifted_cut_not_touched :
    Consistent driftedCut ∧ Orderly (driftedCut.map Splice.hunk) ∧
      listedStatus [⟨['f'], .modified⟩] ['f'] = some .modified ∧
      ¬ ((Session.touches (spliceChange driftedCut) ['f'] ⟨15, 20⟩ {}).outcome = .ok true ↔
        ∃ h ∈ driftedCut.map Splice.hunk, h.AddsIn ⟨15, 20⟩ ∨ h.RemovesIn ⟨15, 20⟩) := by
  refine ⟨consistent_driftedCut, orderly_driftedCut, by decide, fun hiff => ?_⟩
  have hnot : (Session.touches (spliceChange driftedCut) ['f'] ⟨15, 20⟩ {}).outcome =
      .ok false := by
    decide +kernel
  have hremoves : ∃ h ∈ driftedCut.map Splice.hunk, h.AddsIn ⟨15, 20⟩ ∨ h.RemovesIn ⟨15, 20⟩ :=
    ⟨_, List.mem_cons_of_mem _ List.mem_cons_self, .inr ⟨.finite 15, by decide, by decide⟩⟩
  rw [hnot] at hiff
  cases hiff.2 hremoves

/-! ## Wider ranges -/

section Wider

variable {inner outer : LineRange}

theorem Hunk.isIn_widen (hfirst : outer.first ≤ inner.first) (hlast : inner.last ≤ outer.last)
    {n : LineNumber} (hn : isIn inner n = true) : isIn outer n = true := by
  rw [isIn, Bool.and_eq_true] at hn ⊢
  exact ⟨LineNumber.atLeast_anti hfirst hn.1, LineNumber.atMost_mono hlast hn.2⟩

theorem Hunk.changes_widen (hfirst : outer.first ≤ inner.first) (hlast : inner.last ≤ outer.last)
    {h : Hunk} (hchanges : h.changes inner = true) : h.changes outer = true := by
  rw [changes_iff] at hchanges ⊢
  refine hchanges.imp ?_ ?_
  · rintro ⟨n, hn, hin⟩
    exact ⟨n, hn, isIn_widen hfirst hlast hin⟩
  · rintro ⟨n, hn, hin⟩
    exact ⟨n, hn, isIn_widen hfirst hlast hin⟩

/-- What ends before a range ends before a part of it. -/
theorem Hunk.endsBefore_narrow (hfirst : outer.first ≤ inner.first) {h : Hunk}
    (hend : h.endsBefore outer = true) : h.endsBefore inner = true := by
  have hreach (n : LineNumber) (hn : n.atLeast outer.first = false) :
      n.atLeast inner.first = false := by
    cases hinner : n.atLeast inner.first with
    | false => rfl
    | true => rw [LineNumber.atLeast_anti hfirst hinner] at hn; cases hn
  rw [endsBefore, Bool.and_eq_true, Bool.not_eq_true', Bool.not_eq_true'] at hend ⊢
  exact ⟨hreach _ hend.1, hreach _ hend.2⟩

/-- Whatever the hunks are, a search in a wider range finds what a search in a narrower one finds.
It goes at least as far and passes over fewer hunks. -/
theorem hunksTouch_widen (hfirst : outer.first ≤ inner.first) (hlast : inner.last ≤ outer.last)
    {hunks : List Hunk} (htouch : hunksTouch inner hunks = true) :
    hunksTouch outer hunks = true := by
  induction hunks with
  | nil => cases htouch
  | cons h hunks ih =>
    rw [hunksTouch] at htouch ⊢
    split at htouch
    · cases htouch
    · next hstart =>
      have houter : ¬ (!h.newStart.atMost outer.last) = true := by
        have hearly : h.newStart.atMost inner.last = true := by simpa using hstart
        simp [LineNumber.atMost_mono hlast hearly]
      rw [if_neg houter]
      by_cases hend : h.endsBefore outer = true
      · rw [if_pos hend]
        rw [if_pos (Hunk.endsBefore_narrow hfirst hend)] at htouch
        exact ih htouch
      · rw [if_neg hend, Bool.or_eq_true]
        split at htouch
        · exact .inr (ih htouch)
        · rw [Bool.or_eq_true] at htouch
          exact htouch.imp (Hunk.changes_widen hfirst hlast) ih

theorem touchedBy_widen (hfirst : outer.first ≤ inner.first) (hlast : inner.last ≤ outer.last)
    {listed : List ChangedFile} {patch : Option FilePatch} {path : Text}
    (htouch : touchedBy listed patch path inner = true) :
    touchedBy listed patch path outer = true := by
  unfold touchedBy at htouch ⊢
  split at htouch
  · cases htouch
  · rfl
  · cases patch with
    | none => cases htouch
    | some patch => exact hunksTouch_widen hfirst hlast htouch

end Wider

/-- A block that is open where another one opens encloses it. -/
theorem encloses_of_holds {text : Text} {b c : Block} (hb : .block b ∈ findings text)
    (hc : .block c ∈ findings text) (hopen : c.range.Holds b.range.first) :
    c.range.first ≤ b.range.first ∧ b.range.last ≤ c.range.last := by
  obtain ⟨blocks, broken, s, hfindings, hnested, -, -⟩ := (Scan.tracked_start text).findings
  have hmem (d : Block) (hd : .block d ∈ findings text) : d ∈ blocks := by
    rw [show findings text = _ from hfindings] at hd
    simpa using hd
  have hsorted := hnested.found_sorted
  rw [List.nil_append] at hsorted
  -- of two blocks the one that ends first does not hold the opening of the other
  refine ⟨hopen.1, ?_⟩
  refine List.Pairwise.forall_of_forall_of_flip
    (R := fun b c : Block => c.range.Holds b.range.first → b.range.last ≤ c.range.last)
    (fun b _ _ => Nat.le_refl _) ?_ ?_ (hmem b hb) (hmem c hc) hopen
  · exact hsorted.imp fun hends _ => Nat.le_of_lt hends.1
  · refine hsorted.imp ?_
    rintro c b hends ⟨hlow, hhigh⟩
    rcases hends.2 with hbefore | hinside
    · exact absurd hhigh (Nat.not_le.2 hbefore)
    · exact absurd hlow (Nat.not_le.2 hinside)

/-- Whatever the patches of a change are, a range is touched if a part of it is.  So where a block
of a file is touched, every block that is open around it is touched as well. -/
theorem touches_widen {change : Change} {path : Text} {listed : List ChangedFile}
    {patch : Option FilePatch} (hlisted : (change.source.changedFiles ()).outcome = .ok listed)
    (hpatch : (change.source.filePatch path ()).outcome = .ok patch) {s s' : SessionState}
    (hs : s.memo.Faithful change.source) (hs' : s'.memo.Faithful change.source) :
    (∀ inner outer : LineRange, outer.first ≤ inner.first → inner.last ≤ outer.last →
      (Session.touches change path inner s).outcome = .ok true →
      (Session.touches change path outer s').outcome = .ok true) ∧
    ∀ (text : Text) (b c : Block), .block b ∈ findings text → .block c ∈ findings text →
      c.range.Holds b.range.first →
      (Session.touches change path b.range s).outcome = .ok true →
      (Session.touches change path c.range s').outcome = .ok true := by
  have hranges : ∀ inner outer : LineRange, outer.first ≤ inner.first → inner.last ≤ outer.last →
      (Session.touches change path inner s).outcome = .ok true →
      (Session.touches change path outer s').outcome = .ok true := by
    intro inner outer hfirst hlast htouch
    rw [(Session.settles_touches hlisted hpatch inner).outcome hs, Except.ok.injEq] at htouch
    rw [(Session.settles_touches hlisted hpatch outer).outcome hs',
      touchedBy_widen hfirst hlast htouch]
  refine ⟨hranges, ?_⟩
  intro text b c hb hc hopen
  obtain ⟨hfirst, hlast⟩ := encloses_of_holds hb hc hopen
  exact hranges b.range c.range hfirst hlast

/-- Hunks in no order, of which the first one puts a new third line for the ninth. -/
def jumbledHunks : List Splice :=
  [⟨9, 1, 3, 1, by decide, by decide, by decide, by decide, by decide⟩,
    ⟨5, 2, 40, 0, by decide, by decide, by decide, by decide, by decide⟩,
    ⟨1, 1, 1, 1, by decide, by decide, by decide, by decide, by decide⟩]

/-- The hunks above touch the inner one of two blocks, and so the outer one. -/
theorem touches_widen_jumbled :
    let text : Text := "# if-changed\n# if-changed\n# then-change()\n# then-change()\n".toList
    .block ⟨none, ⟨2, 3⟩, []⟩ ∈ findings text ∧ .block ⟨none, ⟨1, 4⟩, []⟩ ∈ findings text ∧
      (Session.touches (spliceChange jumbledHunks) ['f'] ⟨2, 3⟩ {}).outcome = .ok true ∧
      (Session.touches (spliceChange jumbledHunks) ['f'] ⟨1, 4⟩ {}).outcome = .ok true := by
  intro text
  have hinner : .block ⟨none, ⟨2, 3⟩, []⟩ ∈ findings text := by decide
  have houter : .block ⟨none, ⟨1, 4⟩, []⟩ ∈ findings text := by decide
  have htouch : (Session.touches (spliceChange jumbledHunks) ['f'] ⟨2, 3⟩ {}).outcome =
      .ok true := by
    decide +kernel
  have hlisted : ((spliceChange jumbledHunks).source.changedFiles ()).outcome =
      .ok [⟨['f'], .modified⟩] := rfl
  have hpatch : ((spliceChange jumbledHunks).source.filePatch ['f'] ()).outcome =
      .ok (some ⟨['f'], .modified, jumbledHunks.map Splice.hunk⟩) := rfl
  have hempty : ({} : SessionState).memo.Faithful (spliceChange jumbledHunks).source :=
    Memo.faithful_empty _
  obtain ⟨-, hblocks⟩ := touches_widen hlisted hpatch hempty hempty
  have hopen : LineRange.Holds ⟨1, 4⟩ 2 := ⟨by decide, by decide⟩
  exact ⟨hinner, houter, htouch,
    hblocks text ⟨none, ⟨2, 3⟩, []⟩ ⟨none, ⟨1, 4⟩, []⟩ hinner houter hopen htouch⟩

end Lockstep
