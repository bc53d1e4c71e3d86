import Lockstep.Proofs.Selection

/-!
# Demands that are not met

The demands of a block without a name are checked together: their patterns select
from the change, and whatever pattern goes unused is traced back to the demands that
gave it.  Several demands may give one pattern, and a pattern goes unused at all of
its places or at none.

* `Check.Unmet`: a demand that is not met: its pattern is no exclusion, and matches
  none of the changed paths that all patterns together include.
* `Check.blamed_perm`: going through the unused patterns, and through the demands for
  each, comes upon every demand that is not met once.
* `Check.Demand.violation`: what is said of such a demand.
* `Check.messages_checkPlain`: every demand that is not met is reported once, in words
  that tell whether there is a file that it could have been about.
-/

namespace Lockstep

namespace Check

open Session

/-! ## Demands and what is said of them -/

/-- A pattern of several that is no exclusion and matches no path of a listing that they include
together. -/
def Unmet (listed : List ChangedFile) (patterns : List Text) (t : Text) : Prop :=
  isExclusion t = false ∧
    ¬ ∃ path ∈ listed.map (·.path), PatternSet.Includes patterns path ∧ Pattern.Matches t path

instance decidableUnmet (listed : List ChangedFile) (patterns : List Text) (t : Text) :
    Decidable (Unmet listed patterns t) :=
  inferInstanceAs (Decidable (_ ∧ _))

/-- What is said of a demand that is not met, given the files of the tree. -/
def Demand.violation (tree : List Text) (d : Demand) : Violation :=
  if ∃ path ∈ tree, Pattern.Matches d.pattern path then .untouched d.pattern d.stated
  else .noTarget d.pattern d.stated

variable {change : Change} {listed : List ChangedFile} {tree : List Text} {ds : List Demand}

theorem settles_unmet (htree : (change.source.treeFiles ()).outcome = .ok tree) {d : Demand}
    (hcompiles : Pattern.Compiles d.pattern) (hmark : isExclusion d.pattern = false) :
    Settles change (unmet change d) (.ok (d.violation tree)) := by
  obtain ⟨p, hp⟩ := hcompiles
  have hset : PatternSet.compile [d.pattern] = .ok [p] :=
    PatternSet.compile_eq_ok_iff.2 (.cons hp .nil)
  have hempty : (tree.filter (PatternSet.selects [p])).isEmpty = true ↔
      ¬ ∃ path ∈ tree, Pattern.Matches d.pattern path := by
    simp [PatternSet.selects_singleton, Pattern.negated_of_compile hp, hmark,
      Pattern.matches_iff hp]
  refine (settles_treePaths htree (by simp) hset).andThen ?_
  rw [Demand.violation]
  by_cases h : ∃ path ∈ tree, Pattern.Matches d.pattern path
  · rw [if_pos h, if_neg (by rw [hempty]; exact not_not.2 h)]
    exact settles_pure _
  · rw [if_neg h, if_pos (hempty.2 h)]
    exact settles_pure _

theorem settles_unmetAll (htree : (change.source.treeFiles ()).outcome = .ok tree)
    (hcompiles : ∀ d ∈ ds, Pattern.Compiles d.pattern)
    (hmark : ∀ d ∈ ds, isExclusion d.pattern = false) :
    Settles change (unmetAll change ds) (.ok (ds.map (Demand.violation tree))) := by
  induction ds with
  | nil => exact settles_pure _
  | cons d ds ih =>
    have hfirst := settles_unmet htree (hcompiles d List.mem_cons_self) (hmark d List.mem_cons_self)
    have hrest := ih (fun d' hd' => hcompiles d' (List.mem_cons_of_mem _ hd'))
      (fun d' hd' => hmark d' (List.mem_cons_of_mem _ hd'))
    exact hfirst.andThen (hrest.andThen (settles_pure _))

/-! ## From unused patterns back to demands -/

/-- Items picked key by key are the items with one of the keys, if no key comes twice. -/
theorem flatMap_filter_perm {α β : Type} [DecidableEq β] (key : α → β) (items : List α)
    {keys : List β} (h : keys.Nodup) :
    (keys.flatMap fun k => items.filter (key · = k)).Perm (items.filter (key · ∈ keys)) := by
  induction keys with
  | nil => simp
  | cons k keys ih =>
    obtain ⟨hk, hkeys⟩ := List.nodup_cons.1 h
    -- the items with one of the keys are those with the first one, and then the others
    have hsplit := List.filter_append_perm (key · = k) (items.filter (key · ∈ k :: keys))
    have hfirst : (items.filter (key · ∈ k :: keys)).filter (key · = k) =
        items.filter (key · = k) := by
      rw [List.filter_filter]
      refine List.filter_congr ?_
      intro x _
      by_cases hx : key x = k <;> simp [hx]
    have hothers : (items.filter (key · ∈ k :: keys)).filter (fun x => !decide (key x = k)) =
        items.filter (key · ∈ keys) := by
      rw [List.filter_filter]
      refine List.filter_congr ?_
      intro x _
      by_cases hx : key x = k <;> simp [hx, hk]
    rw [hfirst, hothers] at hsplit
    rw [List.flatMap_cons]
    exact ((ih hkeys).append_left _).trans hsplit

theorem nodup_unusedPatterns (found : List Selection) : (unusedPatterns found).Nodup :=
  nodup_eraseDups _

theorem mem_unusedPatterns_iff_unmet {set : PatternSet}
    (hset : PatternSet.compile (ds.map (·.pattern)) = .ok set) {d : Demand} (hd : d ∈ ds) :
    d.pattern ∈ unusedPatterns (selections set ((lastBy (·.path) listed).map (·.path))) ↔
      Unmet listed (ds.map (·.pattern)) d.pattern := by
  rw [mem_unusedPatterns_iff hset, Unmet]
  simp only [mem_lastBy_keys, List.mem_map_of_mem hd, true_and]

/-- The demands that gave an unused pattern, pattern by pattern, are those that are not met. -/
theorem blamed_perm {set : PatternSet} (hset : PatternSet.compile (ds.map (·.pattern)) = .ok set) :
    ((unusedPatterns
      (selections set ((lastBy (·.path) listed).map (·.path)))).flatMap fun pattern =>
      ds.filter (·.pattern = pattern)).Perm
      (ds.filter fun d => Unmet listed (ds.map (·.pattern)) d.pattern) := by
  have hkeys := flatMap_filter_perm Demand.pattern ds
    (nodup_unusedPatterns (selections set ((lastBy (·.path) listed).map (·.path))))
  refine hkeys.trans (.of_eq (List.filter_congr ?_))
  intro d hd
  rw [decide_eq_decide]
  exact mem_unusedPatterns_iff_unmet hset hd

/-- The check of demands without a name comes down to those that are not met, in some order. -/
theorem settles_checkPlain_of_unmetAll
    (hlisted : (change.source.changedFiles ()).outcome = .ok listed)
    (hcompiles : ∀ d ∈ ds, Pattern.Compiles d.pattern) :
    ∃ blamed : List Demand,
      blamed.Perm (ds.filter fun d => Unmet listed (ds.map (·.pattern)) d.pattern) ∧
        ∀ x, Settles change (unmetAll change blamed) x →
          Settles change (checkPlain change ds) x := by
  by_cases hds : ds = []
  · subst hds
    exact ⟨[], .nil, fun x hx => hx⟩
  have hall : ∀ t ∈ ds.map (·.pattern), Pattern.Compiles t := by simpa using hcompiles
  obtain ⟨set, hset⟩ := PatternSet.exists_compile hall
  refine ⟨_, blamed_perm hset, fun x hx => ?_⟩
  unfold checkPlain
  rw [if_neg (by simpa using hds)]
  exact (settles_select hlisted (by simpa using hds) hset).andThen hx

/-- The check of demands without a name settles on one violation for each that is not met. -/
theorem settles_checkPlain (hlisted : (change.source.changedFiles ()).outcome = .ok listed)
    (htree : (change.source.treeFiles ()).outcome = .ok tree)
    (hcompiles : ∀ d ∈ ds, Pattern.Compiles d.pattern) :
    ∃ vs, Settles change (checkPlain change ds) (.ok vs) ∧
      vs.Perm ((ds.filter fun d => Unmet listed (ds.map (·.pattern)) d.pattern).map
        (Demand.violation tree)) := by
  obtain ⟨blamed, hperm, hsettles⟩ := settles_checkPlain_of_unmetAll hlisted hcompiles
  have hblamed : ∀ d ∈ blamed, d ∈ ds ∧ Unmet listed (ds.map (·.pattern)) d.pattern := by
    intro d hd
    simpa using hperm.mem_iff.1 hd
  refine ⟨blamed.map (Demand.violation tree), hsettles _ ?_, hperm.map _⟩
  apply settles_unmetAll htree
  · intro d hd
    exact hcompiles d (hblamed d hd).1
  · intro d hd
    exact (hblamed d hd).2.1

/-! ## In words -/

/-- What is said of an obligation in a file that is not met, given the files of the tree. -/
def complaint (tree : List Text) (file : Text) (o : Obligation) : String :=
  let pattern := rooted file o.pattern
  let place := s!"\"then-change\" in {file.quote} at line {o.line}"
  if ∃ path ∈ tree, Pattern.Matches pattern path then
    s!"Expected {pattern.quote} to be modified because of {place}."
  else s!"Could not find any file matching {pattern.quote} for {place}."

theorem message_violation (tree : List Text) (file : Text) (o : Obligation) :
    ((Demand.ofObligation file o).violation tree).message = complaint tree file o := by
  have hpattern : (Demand.ofObligation file o).pattern = rooted file o.pattern := rfl
  unfold Demand.violation complaint
  rw [hpattern, apply_ite Violation.message]
  rfl

/-- Every obligation without a name that is no exclusion, and that matches none of the changed paths
that all of them include together, is reported once, and nothing else is.  What is said of it
depends on whether its pattern by itself matches a file of the tree. -/
theorem messages_checkPlain {file : Text} {os : List Obligation}
    (hlisted : (change.source.changedFiles ()).outcome = .ok listed)
    (htree : (change.source.treeFiles ()).outcome = .ok tree)
    (hcompiles : ∀ o ∈ os, Pattern.Compiles (rooted file o.pattern))
    {s : SessionState} (hs : s.memo.Faithful change.source) :
    let patterns := os.map fun o => rooted file o.pattern
    ∃ vs, (checkPlain change (os.map (Demand.ofObligation file)) s).outcome = .ok vs ∧
      (vs.map Violation.message).Perm
        ((os.filter fun o => Unmet listed patterns (rooted file o.pattern)).map
          (complaint tree file)) := by
  intro patterns
  set ds := os.map (Demand.ofObligation file) with hds
  have hpatterns : ds.map (·.pattern) = patterns := by
    rw [hds, List.map_map]
    rfl
  have hall : ∀ d ∈ ds, Pattern.Compiles d.pattern := by
    intro d hd
    obtain ⟨o, ho, rfl⟩ := List.mem_map.1 hd
    exact hcompiles o ho
  obtain ⟨vs, hvs, hperm⟩ := settles_checkPlain hlisted htree hall
  refine ⟨vs, hvs.outcome hs, (hperm.map Violation.message).trans (.of_eq ?_)⟩
  rw [hpatterns, hds, List.filter_map, List.map_map, List.map_map]
  refine List.map_congr_left ?_
  intro o _
  exact message_violation tree file o

/-- A change to two of three files. -/
def partialChange : Change where
  source :=
    { root := none
      exemptPatterns := []
      changedFiles := pure [⟨['a'], .modified⟩, ⟨['c'], .modified⟩]
      filePatch := fun _ => pure none
      treeFiles := pure [['a'], ['b'], ['c']] }
  exempt := []

/-- Obligations of which the first two come to the same pattern, and the third is excluded again. -/
def mixedObligations : List Obligation :=
  [⟨['b'], none, 2⟩, ⟨['.', '/', 'b'], none, 2⟩, ⟨['c'], none, 2⟩, ⟨['!', 'c'], none, 2⟩,
    ⟨['d'], none, 2⟩, ⟨['/', 'a'], none, 2⟩]

theorem messages_checkPlain_mixed :
    (∀ o ∈ mixedObligations, Pattern.Compiles (rooted ['a'] o.pattern)) ∧
      ∃ vs, (checkPlain partialChange (mixedObligations.map (Demand.ofObligation ['a']))
        {}).outcome =
          .ok vs ∧
        (vs.map Violation.message).Perm
          ["Expected \"b\" to be modified because of \"then-change\" in \"a\" at line 2.",
            "Expected \"b\" to be modified because of \"then-change\" in \"a\" at line 2.",
            "Expected \"c\" to be modified because of \"then-change\" in \"a\" at line 2.",
            "Could not find any file matching \"d\" for \"then-change\" in \"a\" at line 2."] := by
  have hcompiles : ∀ o ∈ mixedObligations, Pattern.Compiles (rooted ['a'] o.pattern) := by
    decide +kernel
  obtain ⟨vs, hvs, hperm⟩ := @messages_checkPlain partialChange _ _ ['a'] _ rfl rfl hcompiles {}
    (Memo.faithful_empty partialChange.source)
  refine ⟨hcompiles, vs, hvs, hperm.trans (.of_eq ?_)⟩
  decide +kernel

end Check

end Lockstep
