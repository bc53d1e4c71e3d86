import Mathlib.Data.Multiset.Defs
import Lockstep.Proofs.PatternLists
import Lockstep.Proofs.WholeCheck

/-!
# Patterns together and one by one

The patterns of a block's obligations without a name are matched together, those of
obligations with a name one by one.  Where nothing is excluded this makes no
difference, and then the order of the obligations makes none either.

* `PatternSet.lastIncludes_iff_exists`: without exclusions, a list of patterns
  includes what one of them matches.
* `Session.selects_together`: such patterns select together what they select alone, and
  those are reported as unused that alone select nothing.
* `Check.Reordered`: outcomes of a check that differ in the order of the violations.
* `Check.selects_as_alone`: and so the order of such obligations only bears on the
  order of the violations.
-/

namespace Lockstep

/-- Where nothing is excluded, it does not matter which of the patterns that match is the last. -/
theorem PatternSet.lastIncludes_iff_exists {texts : List Text} {path : Text}
    (hmark : ∀ t ∈ texts, Check.isExclusion t = false) :
    LastIncludes texts path ↔ ∃ t ∈ texts, Pattern.Matches t path := by
  induction texts with
  | nil => simp [not_lastIncludes_nil]
  | cons t texts ih =>
    obtain ⟨ht, htexts⟩ := List.forall_mem_cons.1 hmark
    rw [lastIncludes_cons, ih htexts, List.exists_mem_cons_iff]
    constructor
    · rintro (hlater | ⟨hmatch, -, -⟩)
      · exact .inr hlater
      · exact .inl hmatch
    · rintro (hmatch | hlater)
      · by_cases hlater : ∃ u ∈ texts, Pattern.Matches u path
        · exact .inl hlater
        · exact .inr ⟨hmatch, ht, fun u hu hu' => hlater ⟨u, hu, hu'⟩⟩
      · exact .inl hlater

namespace Session

variable {change : Change} {listed : List ChangedFile} {patterns : List Text}

/-! ## Selecting -/

theorem Selects.congr {paths : List Text} {idle idle' : Text → Bool}
    (h : Selects change patterns paths idle) (hidle : ∀ t ∈ patterns, idle t = idle' t) :
    Selects change patterns paths idle' := by
  intro s hs
  rw [h s hs, List.filter_congr hidle]

theorem mem_chosen_singleton {t path : Text} (hmark : Check.isExclusion t = false) :
    path ∈ chosen listed [t] ↔ path ∈ listed.map (·.path) ∧ Pattern.Matches t path := by
  rw [mem_chosen, PatternSet.lastIncludes_iff_exists (by simpa using hmark)]
  simp

theorem chosen_singleton_isEmpty_iff {t : Text} (hmark : Check.isExclusion t = false) :
    (chosen listed [t]).isEmpty = true ↔
      ∀ path ∈ listed.map (·.path), ¬ Pattern.Matches t path := by
  rw [List.isEmpty_iff, List.eq_nil_iff_forall_not_mem]
  simp only [mem_chosen_singleton hmark, not_and]

section Included

variable (hmark : ∀ t ∈ patterns, Check.isExclusion t = false)

include hmark

/-- Where nothing is excluded, a pattern is idle among others if and only if it is so alone. -/
theorem isIdle_eq_alone {t : Text} (ht : t ∈ patterns) :
    isIdle listed patterns t = (chosen listed [t]).isEmpty := by
  rw [Bool.eq_iff_iff, isIdle_iff, chosen_singleton_isEmpty_iff (hmark t ht), hmark t ht]
  simp only [Bool.false_eq_true, false_or, mem_chosen, PatternSet.lastIncludes_iff_exists hmark]
  constructor
  · intro hfree path hpath hmatch
    exact hfree path ⟨hpath, t, ht, hmatch⟩ hmatch
  · intro hfree path hpath
    exact hfree path hpath.1

theorem chosen_eq_union : chosen listed patterns =
    (listed.map (·.path)).eraseDups.filter
      fun path => ∃ t ∈ patterns, path ∈ chosen listed [t] := by
  refine List.filter_congr ?_
  intro path hpath
  rw [decide_eq_decide, PatternSet.lastIncludes_iff_exists hmark]
  refine exists_congr fun t => and_congr_right fun ht => ?_
  rw [mem_chosen_singleton (hmark t ht)]
  simp only [List.mem_eraseDups.1 hpath, true_and]

/-- Where nothing is excluded, patterns select together the paths that one of them selects alone,
and those are reported, each at its place, that select nothing alone. -/
theorem selects_together (hlisted : (change.source.changedFiles ()).outcome = .ok listed)
    (hne : patterns ≠ []) (hcompiles : ∀ t ∈ patterns, Pattern.Compiles t) :
    ∃ alone : Text → List Text,
      (∀ t ∈ patterns, Selects change [t] (alone t) fun t => (alone t).isEmpty) ∧
        Selects change patterns
          ((listed.map (·.path)).eraseDups.filter fun path => ∃ t ∈ patterns, path ∈ alone t)
          fun t => (alone t).isEmpty := by
  refine ⟨fun t => chosen listed [t], ?_, ?_⟩
  · intro t ht
    have hone : ∀ u ∈ [t], Check.isExclusion u = false := by simpa using hmark t ht
    refine (selects_chosen hlisted (by simp) (by simpa using hcompiles t ht)).congr ?_
    intro u hu
    rw [isIdle_eq_alone hone hu]
  · rw [← chosen_eq_union hmark]
    refine (selects_chosen hlisted hne hcompiles).congr ?_
    intro t ht
    exact isIdle_eq_alone hmark ht

end Included

end Session

namespace Check

open Session

/-! ## Outcomes up to the order -/

/-- Outcomes that differ in the order of the violations at the most. -/
def Reordered {ε : Type} (x y : Except ε (List Violation)) : Prop :=
  x.map Multiset.ofList = y.map Multiset.ofList

section Reordered

variable {ε δ : Type} {x y : Except ε (List Violation)}

theorem reordered_ok {vs ws : List Violation} (h : vs.Perm ws) :
    Reordered (.ok vs : Except ε (List Violation)) (.ok ws) := by
  simpa [Reordered, Except.map] using h

theorem Reordered.mapError (h : Reordered x y) (f : ε → δ) :
    Reordered (x.mapError f) (y.mapError f) := by
  cases x <;> cases y <;> simp_all [Reordered, Except.map, Except.mapError]

/-- What comes behind the violations does not depend on their order. -/
theorem Reordered.andThen (h : Reordered x y) (more : Except ε (List Violation)) :
    Reordered (x >>= fun vs => more >>= fun ws => .ok (vs ++ ws))
      (y >>= fun vs => more >>= fun ws => .ok (vs ++ ws)) := by
  cases x with
  | error why =>
    cases y with
    | error why' => exact h
    | ok vs' => cases h
  | ok vs =>
    cases y with
    | error why' => cases h
    | ok vs' =>
      have hperm : vs.Perm vs' := by simpa [Reordered, Except.map] using h
      cases more with
      | error why => rfl
      | ok ws => exact reordered_ok (hperm.append_right ws)

end Reordered

/-! ## The order of obligations -/

variable {change : Change} {listed : List ChangedFile} {ds ds' : List Demand}

/-- Where nothing is excluded, a demand is met exactly if its pattern matches a changed path. -/
theorem unmet_iff_alone {patterns : List Text} (hcompiles : ∀ t ∈ patterns, Pattern.Compiles t)
    (hmark : ∀ t ∈ patterns, isExclusion t = false) {t : Text} (ht : t ∈ patterns) :
    Unmet listed patterns t ↔ ∀ path ∈ listed.map (·.path), ¬ Pattern.Matches t path := by
  obtain ⟨set, hset⟩ := PatternSet.exists_compile hcompiles
  have hincludes : ∀ path, Pattern.Matches t path → PatternSet.Includes patterns path := by
    intro path hmatch
    rw [PatternSet.includes_iff hset, PatternSet.selects_iff_last hset,
      PatternSet.lastIncludes_iff_exists hmark]
    exact ⟨t, ht, hmatch⟩
  constructor
  · rintro ⟨-, hnone⟩ path hpath hmatch
    exact hnone ⟨path, hpath, hincludes path hmatch, hmatch⟩
  · intro hfree
    refine ⟨hmark t ht, ?_⟩
    rintro ⟨path, hpath, -, hmatch⟩
    exact hfree path hpath hmatch

/-- Without the files of the tree, nothing can be said of demands that are not met. -/
theorem settles_unmetAll_error {why : Failure}
    (htree : (change.source.treeFiles ()).outcome = .error why) (hds : ds ≠ []) :
    Settles change (unmetAll change ds) (.error why) := by
  cases ds with
  | nil => exact absurd rfl hds
  | cons d ds => exact (settles_tree htree).bind_error.bind_error.bind_error

theorem settles_unmetAll_reordered (hperm : ds.Perm ds')
    (hcompiles : ∀ d ∈ ds, Pattern.Compiles d.pattern)
    (hmark : ∀ d ∈ ds, isExclusion d.pattern = false) :
    ∃ x y, Settles change (unmetAll change ds) x ∧ Settles change (unmetAll change ds') y ∧
      Reordered x y := by
  cases htree : (change.source.treeFiles ()).outcome with
  | ok tree =>
    refine ⟨_, _, settles_unmetAll htree hcompiles hmark, settles_unmetAll htree ?_ ?_,
      reordered_ok (hperm.map _)⟩
    · intro d hd
      exact hcompiles d (hperm.mem_iff.2 hd)
    · intro d hd
      exact hmark d (hperm.mem_iff.2 hd)
  | error why =>
    by_cases hds : ds = []
    · subst hds
      obtain rfl : [] = ds' := hperm.nil_eq
      exact ⟨_, _, settles_pure [], settles_pure [], rfl⟩
    · have hds' : ds' ≠ [] := by
        rintro rfl
        exact hds hperm.eq_nil
      exact ⟨_, _, settles_unmetAll_error htree hds, settles_unmetAll_error htree hds', rfl⟩

/-- Where nothing is excluded, the order of demands without a name bears on the order of the
violations and on nothing else. -/
theorem settles_checkPlain_reordered
    (hlisted : (change.source.changedFiles ()).outcome = .ok listed) (hperm : ds.Perm ds')
    (hcompiles : ∀ d ∈ ds, Pattern.Compiles d.pattern)
    (hmark : ∀ d ∈ ds, isExclusion d.pattern = false) :
    ∃ x y, Settles change (checkPlain change ds) x ∧ Settles change (checkPlain change ds') y ∧
      Reordered x y := by
  have hcompiles' : ∀ d ∈ ds', Pattern.Compiles d.pattern :=
    fun d hd => hcompiles d (hperm.mem_iff.2 hd)
  have hmark' : ∀ d ∈ ds', isExclusion d.pattern = false := fun d hd => hmark d (hperm.mem_iff.2 hd)
  obtain ⟨blamed, hblamed, hsettles⟩ := settles_checkPlain_of_unmetAll hlisted hcompiles
  obtain ⟨blamed', hblamed', hsettles'⟩ := settles_checkPlain_of_unmetAll hlisted hcompiles'
  have hunmet : ds.filter (fun d => Unmet listed (ds.map (·.pattern)) d.pattern) =
      ds.filter fun d => Unmet listed (ds'.map (·.pattern)) d.pattern := by
    refine List.filter_congr ?_
    intro d hd
    rw [decide_eq_decide,
      unmet_iff_alone (by simpa using hcompiles) (by simpa using hmark) (List.mem_map_of_mem hd),
      unmet_iff_alone (by simpa using hcompiles') (by simpa using hmark')
        (List.mem_map_of_mem (hperm.mem_iff.1 hd))]
  have hsame : blamed.Perm blamed' := by
    rw [hunmet] at hblamed
    exact hblamed.trans ((hperm.filter _).trans hblamed'.symm)
  have hmem : ∀ d ∈ blamed, d ∈ ds := fun d hd => (List.mem_filter.1 (hblamed.mem_iff.1 hd)).1
  obtain ⟨x, y, hx, hy, hxy⟩ := settles_unmetAll_reordered hsame
    (fun d hd => hcompiles d (hmem d hd)) (fun d hd => hmark d (hmem d hd))
  exact ⟨x, y, hsettles x hx, hsettles' y hy, hxy⟩

variable (disk : FileTree)

/-- Demands without a name are passed over where those with a name are checked. -/
theorem checkAllNamed_filter (ds : List Demand) :
    checkAllNamed change disk (ds.filter (·.name.isSome)) = checkAllNamed change disk ds := by
  induction ds with
  | nil => rfl
  | cons d ds ih =>
    cases hname : d.name with
    | none => simp [checkAllNamed, hname, ih]
    | some name => simp [checkAllNamed, hname, ih]

theorem settles_checkBlock_reordered
    (hlisted : (change.source.changedFiles ()).outcome = .ok listed) {file : Text} {b b' : Block}
    (hnamed : b'.obligations.filter (·.name.isSome) = b.obligations.filter (·.name.isSome))
    (hplain : (b'.obligations.filter (·.name.isNone)).Perm (b.obligations.filter (·.name.isNone)))
    (hcompiles : ∀ o ∈ b.obligations, o.name = none →
      Pattern.Compiles (rooted file o.pattern) ∧ isExclusion (rooted file o.pattern) = false) :
    ∃ x y, Settles change (checkBlock change disk file b) x ∧
      Settles change (checkBlock change disk file b') y ∧ Reordered x y := by
  have hfilter : ∀ (p : Option Text → Bool) (os : List Obligation),
      (os.map (Demand.ofObligation file)).filter (fun d => p d.name) =
        (os.filter fun o => p o.name).map (Demand.ofObligation file) := by
    intro p os
    rw [List.filter_map]
    rfl
  have hperm : ((b.obligations.map (Demand.ofObligation file)).filter (·.name.isNone)).Perm
      ((b'.obligations.map (Demand.ofObligation file)).filter (·.name.isNone)) := by
    rw [hfilter, hfilter]
    exact (hplain.map _).symm
  have hgood : ∀ d ∈ (b.obligations.map (Demand.ofObligation file)).filter (·.name.isNone),
      Pattern.Compiles d.pattern ∧ isExclusion d.pattern = false := by
    rw [hfilter]
    intro d hd
    obtain ⟨o, ho, rfl⟩ := List.mem_map.1 hd
    obtain ⟨ho, hname⟩ := List.mem_filter.1 ho
    exact hcompiles o ho (by simpa using hname)
  have hsame : checkAllNamed change disk (b'.obligations.map (Demand.ofObligation file)) =
      checkAllNamed change disk (b.obligations.map (Demand.ofObligation file)) := by
    rw [← checkAllNamed_filter, hfilter, hnamed, ← hfilter, checkAllNamed_filter]
  obtain ⟨x, y, hx, hy, hxy⟩ := settles_checkPlain_reordered hlisted hperm
    (fun d hd => (hgood d hd).1) (fun d hd => (hgood d hd).2)
  obtain ⟨z, hz, -⟩ := (alike_checkAllNamed disk rfl
    (b.obligations.map (Demand.ofObligation file))).settles (.refl change.source)
  have hz' : Settles change
      (checkAllNamed change disk (b'.obligations.map (Demand.ofObligation file))) z := hsame ▸ hz
  exact ⟨_, _, hx.bind fun vs _ => hz.bind fun ws _ => settles_pure (vs ++ ws),
    hy.bind fun vs _ => hz'.bind fun ws _ => settles_pure (vs ++ ws), hxy.andThen z⟩

/-- Where nothing is excluded, patterns select together the paths that one of them selects alone,
and those are reported, each at its place, that select nothing alone.  So whatever the order of a
block's obligations without a name is, the check of the block has the same outcome but for the order
of the violations. -/
theorem selects_as_alone (hlisted : (change.source.changedFiles ()).outcome = .ok listed) :
    (∀ patterns : List Text, patterns ≠ [] →
      (∀ t ∈ patterns, Pattern.Compiles t ∧ isExclusion t = false) →
      ∃ alone : Text → List Text,
        (∀ t ∈ patterns, Selects change [t] (alone t) fun t => (alone t).isEmpty) ∧
          Selects change patterns
            ((listed.map (·.path)).eraseDups.filter fun path => ∃ t ∈ patterns, path ∈ alone t)
            fun t => (alone t).isEmpty) ∧
    ∀ (file : Text) (b b' : Block),
      b'.obligations.filter (·.name.isSome) = b.obligations.filter (·.name.isSome) →
      (b'.obligations.filter (·.name.isNone)).Perm (b.obligations.filter (·.name.isNone)) →
      (∀ o ∈ b.obligations, o.name = none →
        Pattern.Compiles (rooted file o.pattern) ∧ isExclusion (rooted file o.pattern) = false) →
      ∀ s : SessionState, s.memo.Faithful change.source →
        Reordered (checkBlock change disk file b s).outcome
          (checkBlock change disk file b' s).outcome := by
  constructor
  · intro patterns hne hgood
    exact selects_together (fun t ht => (hgood t ht).2) hlisted hne fun t ht => (hgood t ht).1
  · intro file b b' hnamed hplain hgood s hs
    obtain ⟨x, y, hx, hy, hxy⟩ := settles_checkBlock_reordered disk hlisted hnamed hplain hgood
    rw [(hx s hs).1, (hy s hs).1]
    exact hxy.mapError _

/-- Patterns that match a path twice, once and not at all. -/
def overlappingPatterns : List Text := ["*", "c", "b"].map String.toList

/-- A block with these patterns and with a demand on a part of a file. -/
def overlappingBlock (patterns : List Text) : Block where
  name := none
  range := ⟨1, 2⟩
  obligations := ⟨['d'], some ['n'], 2⟩ :: patterns.map (⟨·, none, 2⟩)

theorem selects_as_alone_overlapping :
    (∀ t ∈ overlappingPatterns, Pattern.Compiles t ∧ isExclusion t = false) ∧
      (∃ alone : Text → List Text,
        (∀ t ∈ overlappingPatterns,
          Selects partialChange [t] (alone t) fun t => (alone t).isEmpty) ∧
          Selects partialChange overlappingPatterns
            ([['a'], ['c']].filter fun path => ∃ t ∈ overlappingPatterns, path ∈ alone t)
            fun t => (alone t).isEmpty) ∧
      Reordered
        (checkBlock partialChange (.ofFiles [] []) ['a']
          (overlappingBlock overlappingPatterns) {}).outcome
        (checkBlock partialChange (.ofFiles [] []) ['a']
          (overlappingBlock overlappingPatterns.reverse) {}).outcome := by
  have hgood : ∀ t ∈ overlappingPatterns, Pattern.Compiles t ∧ isExclusion t = false := by
    decide +kernel
  obtain ⟨hselects, hchecks⟩ := @selects_as_alone partialChange _ (.ofFiles [] []) rfl
  refine ⟨hgood, hselects overlappingPatterns (by simp [overlappingPatterns]) hgood, ?_⟩
  refine hchecks ['a'] _ _ (by rfl) ?_ ?_ {} (Memo.faithful_empty partialChange.source)
  · show (overlappingPatterns.reverse.map fun t => Obligation.mk t none 2).Perm
      (overlappingPatterns.map fun t => Obligation.mk t none 2)
    exact (List.reverse_perm _).map _
  · decide +kernel

end Check

end Lockstep
