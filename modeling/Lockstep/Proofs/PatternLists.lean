import Lockstep.Proofs.Selection

/-!
# Patterns added to a list

In a list of patterns the last one that matches a path decides.  A pattern that is
put behind the others therefore decides on all that it matches and on nothing else:
an exclusion can only take paths away, and any other pattern can only add some.
Which of the earlier patterns go unused changes with that, in the other direction.

* `PatternSet.lastIncludes_concat`: what a list includes with one more pattern.
* `Session.Selects`: the outcome of a selection: the paths, and the patterns that
  are reported because they select none of them.
* `Session.selects_append`: what becomes of the paths and of the reports when a
  pattern is added.
-/

namespace Lockstep

/-- A pattern behind all others decides on what it matches, and leaves the rest to them. -/
theorem PatternSet.lastIncludes_concat {texts : List Text} {t path : Text} :
    LastIncludes (texts ++ [t]) path ↔
      Pattern.Matches t path ∧ Check.isExclusion t = false ∨
        ¬ Pattern.Matches t path ∧ LastIncludes texts path := by
  constructor
  · rintro ⟨before, u, after, hsplit, hmatch, hmark, hafter⟩
    rcases List.eq_nil_or_concat after with rfl | ⟨after, last, rfl⟩
    · -- the pattern that decides is the one behind all others
      obtain ⟨-, hlast⟩ := List.append_inj' hsplit rfl
      obtain rfl : t = u := List.singleton_inj.1 hlast
      exact .inl ⟨hmatch, hmark⟩
    · have hconcat : texts ++ [t] = (before ++ u :: after) ++ [last] := by simpa using hsplit
      obtain ⟨hfront, hlast⟩ := List.append_inj' hconcat rfl
      obtain rfl : t = last := List.singleton_inj.1 hlast
      refine .inr ⟨hafter t (by simp), before, u, after, hfront, hmatch, hmark, ?_⟩
      intro v hv
      exact hafter v (by simp [hv])
  · rintro (⟨hmatch, hmark⟩ | ⟨hfree, before, u, after, rfl, hmatch, hmark, hafter⟩)
    · exact ⟨texts, t, [], rfl, hmatch, hmark, by simp⟩
    · refine ⟨before, u, after ++ [t], by simp, hmatch, hmark, ?_⟩
      intro v hv
      rcases List.mem_append.1 hv with hv | hv
      · exact hafter v hv
      · rwa [List.mem_singleton.1 hv]

namespace Session

/-! ## What a list of patterns selects -/

/-- Patterns select these paths from a change, and among the patterns those are reported, each at
its place and as often as it is given, that are idle.  Nothing depends on what was asked before. -/
def Selects (change : Change) (patterns paths : List Text) (idle : Text → Bool) : Prop :=
  ∀ s : SessionState, s.memo.Faithful change.source →
    (select change patterns s).outcome =
      .ok (paths.map .path ++ (patterns.filter idle).map .unused)

/-- The paths of a listing that patterns include, each once. -/
def chosen (listed : List ChangedFile) (patterns : List Text) : List Text :=
  (listed.map (·.path)).eraseDups.filter fun path => PatternSet.LastIncludes patterns path

/-- Whether a pattern excludes, or matches none of the paths that it and others select. -/
def isIdle (listed : List ChangedFile) (patterns : List Text) (t : Text) : Bool :=
  Check.isExclusion t = true ∨ ∀ path ∈ chosen listed patterns, ¬ Pattern.Matches t path

variable {change : Change} {listed : List ChangedFile} {patterns : List Text}

theorem mem_chosen {path : Text} :
    path ∈ chosen listed patterns ↔
      path ∈ listed.map (·.path) ∧ PatternSet.LastIncludes patterns path := by
  simp [chosen]

theorem isIdle_iff {t : Text} :
    isIdle listed patterns t = true ↔
      Check.isExclusion t = true ∨ ∀ path ∈ chosen listed patterns, ¬ Pattern.Matches t path := by
  simp [isIdle]

theorem selects_chosen (hlisted : (change.source.changedFiles ()).outcome = .ok listed)
    (hne : patterns ≠ []) (hcompiles : ∀ t ∈ patterns, Pattern.Compiles t) :
    Selects change patterns (chosen listed patterns) (isIdle listed patterns) := by
  intro s hs
  obtain ⟨set, hset⟩ := PatternSet.exists_compile hcompiles
  rw [(settles_select hlisted hne hset).outcome hs, map_lastBy, selections_eq hset]
  rfl

/-! ## One pattern more -/

/-- The fewer paths are selected, the more patterns are idle. -/
theorem isIdle_of_subset {more : List Text} (h : chosen listed patterns ⊆ chosen listed more)
    {t : Text} (ht : isIdle listed more t = true) : isIdle listed patterns t = true := by
  rw [isIdle_iff] at ht ⊢
  refine ht.imp_right ?_
  intro hfree path hpath
  exact hfree path (h hpath)

theorem mem_chosen_append_exclusion {q path : Text} :
    path ∈ chosen listed (patterns ++ ['!' :: q]) ↔
      path ∈ chosen listed patterns ∧ ¬ Pattern.Matches ('!' :: q) path := by
  have hmark : Check.isExclusion ('!' :: q) = true := by simp [Check.isExclusion]
  rw [mem_chosen, mem_chosen, PatternSet.lastIncludes_concat, hmark]
  by_cases hmatch : Pattern.Matches ('!' :: q) path <;> simp [hmatch]

theorem mem_chosen_append_inclusion {q : Text} (hmark : Check.isExclusion q = false) {path : Text} :
    path ∈ chosen listed (patterns ++ [q]) ↔
      path ∈ chosen listed patterns ∨ path ∈ listed.map (·.path) ∧ Pattern.Matches q path := by
  rw [mem_chosen, mem_chosen, PatternSet.lastIncludes_concat, hmark]
  by_cases hmatch : Pattern.Matches q path
  · simp only [hmatch, not_true, false_and, or_false, and_true]
    exact ⟨.inr, fun h => h.elim And.left id⟩
  · simp only [hmatch, false_and, false_or, not_false_iff, true_and, and_false, or_false]

/-- An exclusion behind other patterns takes away the paths that it matches and nothing else, and
whichever of the patterns were reported as unused still are.  Any other pattern behind them adds the
paths that it matches and takes none away, and whichever of them are still reported were so
before. -/
theorem selects_append (hlisted : (change.source.changedFiles ()).outcome = .ok listed)
    (hne : patterns ≠ []) (hcompiles : ∀ t ∈ patterns, Pattern.Compiles t) :
    ∃ paths idle, Selects change patterns paths idle ∧
      (∀ q, Pattern.Compiles ('!' :: q) →
        ∃ fewer idler, Selects change (patterns ++ ['!' :: q]) fewer idler ∧
          (∀ path, path ∈ fewer ↔ path ∈ paths ∧ ¬ Pattern.Matches ('!' :: q) path) ∧
          ∀ t ∈ patterns, idle t = true → idler t = true) ∧
      ∀ q, Check.isExclusion q = false → Pattern.Compiles q →
        ∃ more busier, Selects change (patterns ++ [q]) more busier ∧
          (∀ path, path ∈ more ↔
            path ∈ paths ∨ path ∈ listed.map (·.path) ∧ Pattern.Matches q path) ∧
          ∀ t ∈ patterns, busier t = true → idle t = true := by
  have hselects : ∀ q, Pattern.Compiles q → Selects change (patterns ++ [q])
      (chosen listed (patterns ++ [q])) (isIdle listed (patterns ++ [q])) := by
    intro q hq
    apply selects_chosen hlisted (by simp)
    intro t ht
    rcases List.mem_append.1 ht with ht | ht
    · exact hcompiles t ht
    · rwa [List.mem_singleton.1 ht]
  refine ⟨_, _, selects_chosen hlisted hne hcompiles, ?_, ?_⟩
  · intro q hq
    have hfewer : chosen listed (patterns ++ ['!' :: q]) ⊆ chosen listed patterns := by
      intro path hpath
      exact (mem_chosen_append_exclusion.1 hpath).1
    exact ⟨_, _, hselects _ hq, fun path => mem_chosen_append_exclusion,
      fun t _ => isIdle_of_subset hfewer⟩
  · intro q hmark hq
    have hmore : chosen listed patterns ⊆ chosen listed (patterns ++ [q]) := by
      intro path hpath
      exact (mem_chosen_append_inclusion hmark).2 (.inl hpath)
    exact ⟨_, _, hselects _ hq, fun path => mem_chosen_append_inclusion hmark,
      fun t _ => isIdle_of_subset hmore⟩

/-- Patterns of which the second takes back a part of what the first selects. -/
def layeredPatterns : List Text := ["*.c", "!b.c", "x"].map String.toList

/-- One exclusion more takes away what the first pattern still selects; the name that was excluded
brings its file back. -/
theorem selects_append_layered :
    layeredPatterns ≠ [] ∧ (∀ t ∈ layeredPatterns, Pattern.Compiles t) ∧
      ∃ paths idle, Selects repeatedChange layeredPatterns paths idle ∧
        (∃ fewer idler,
          Selects repeatedChange (layeredPatterns ++ ["!*.c".toList]) fewer idler ∧
            "a.c".toList ∉ fewer ∧ ∀ t ∈ layeredPatterns, idle t = true → idler t = true) ∧
        ∃ more busier, Selects repeatedChange (layeredPatterns ++ ["b.c".toList]) more busier ∧
          "b.c".toList ∈ more ∧ ∀ t ∈ layeredPatterns, busier t = true → idle t = true := by
  have hne : layeredPatterns ≠ [] := by simp [layeredPatterns]
  have hcompiles : ∀ t ∈ layeredPatterns, Pattern.Compiles t := by
    decide +kernel
  obtain ⟨paths, idle, hselects, hexclude, hinclude⟩ :=
    @selects_append repeatedChange _ _ rfl hne hcompiles
  obtain ⟨fewer, idler, hfewer, hmem, hidler⟩ := hexclude "*.c".toList (by decide +kernel)
  obtain ⟨more, busier, hmore, hmem', hbusier⟩ :=
    hinclude "b.c".toList (by decide) (by decide +kernel)
  refine ⟨hne, hcompiles, paths, idle, hselects, ⟨fewer, idler, hfewer, ?_, hidler⟩,
    more, busier, hmore, ?_, hbusier⟩
  · intro ha
    exact ((hmem _).1 ha).2 (by decide +kernel)
  · exact (hmem' _).2 (.inr ⟨by decide, by decide +kernel⟩)

end Session

end Lockstep
