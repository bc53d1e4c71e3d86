import Mathlib.Data.List.Forall2
import Mathlib.Data.List.Induction
import Lockstep.Check.File
import Lockstep.Proofs.Memory

/-!
# Patterns and what they select

Facts about compiling patterns and about the selections made with them.

* `Pattern.Compiles`: a pattern that is neither too long nor badly written.
* `PatternSet.compile_eq_ok_iff`: a set compiles pattern by pattern, so that
  every pattern of the set goes back to one of the texts and the other way round.
* `Check.mem_unusedPatterns_iff`: the patterns that a selection reports as unused,
  exclusions left out, are those that match no selected path.
* `PatternSet.selects_iff_last`: a set selects a path exactly if the last pattern
  that matches the path is no exclusion.
* `selections_eq`: what a set selects, said of the texts of its patterns.
* `Session.select_eq`: what a session selects from the paths of the change.
* `map_lastBy`: dropping repeated keys keeps the order in which they come up first.
-/

namespace Lockstep

/-! ## Lists with every key once -/

section Keys

variable {α : Type} {key : α → Text}

theorem map_putBy (item : α) (items : List α) :
    (putBy key item items).map key =
      if key item ∈ items.map key then items.map key else items.map key ++ [key item] := by
  induction items with
  | nil => simp [putBy]
  | cons other items ih =>
    rw [putBy]
    by_cases h : key other = key item
    · simp [h]
    · rw [if_neg h, List.map_cons, List.map_cons, ih]
      have hmem : key item ∈ key other :: items.map key ↔ key item ∈ items.map key := by
        simp [Ne.symm h]
      simp only [hmem]
      split <;> rfl

/-- The keys stay in the order in which they come up first. -/
theorem map_lastBy (items : List α) : (lastBy key items).map key = (items.map key).eraseDups := by
  induction items using List.reverseRecOn with
  | nil => rfl
  | append_singleton items item ih =>
    rw [lastBy, List.foldl_append, List.foldl_cons, List.foldl_nil, ← lastBy, map_putBy, ih,
      List.map_append, List.eraseDups_append, List.map_singleton, List.removeAll]
    simp only [List.filter_cons, List.filter_nil, List.elem_eq_mem, List.mem_eraseDups]
    by_cases h : key item ∈ items.map key
    · rw [if_pos h, decide_eq_true h]
      exact (List.append_nil _).symm
    · rw [if_neg h, decide_eq_false h]
      rfl

theorem mem_lastBy_keys {items : List α} {k : Text} :
    k ∈ (lastBy key items).map key ↔ k ∈ items.map key := by
  rw [map_lastBy, List.mem_eraseDups]

/-- Every key is there once. -/
theorem nodup_lastBy (items : List α) : ((lastBy key items).map key).Nodup := by
  induction items using List.reverseRecOn with
  | nil => exact List.nodup_nil
  | append_singleton items item ih =>
    rw [lastBy, List.foldl_concat, ← lastBy, map_putBy]
    by_cases h : key item ∈ (lastBy key items).map key
    · rw [if_pos h]
      exact ih
    · rw [if_neg h]
      refine List.nodup_append.2 ⟨ih, List.pairwise_singleton _ _, ?_⟩
      intro k hk k' hk' heq
      rw [heq, List.mem_singleton.1 hk'] at hk
      exact h hk

theorem nodup_eraseDups (ts : List Text) : ts.eraseDups.Nodup := by
  rw [← List.map_id ts, ← map_lastBy]
  exact nodup_lastBy ts

/-- No key is made up, and none is moved. -/
theorem lastBy_keys_sublist (items : List α) :
    ((lastBy key items).map key).Sublist (items.map key) := by
  induction items using List.reverseRecOn with
  | nil => exact .slnil
  | append_singleton items item ih =>
    rw [lastBy, List.foldl_concat, ← lastBy, map_putBy, List.map_append]
    by_cases h : key item ∈ (lastBy key items).map key
    · rw [if_pos h]
      exact ih.trans (List.sublist_append_left _ _)
    · rw [if_neg h]
      exact ih.append (.refl _)

theorem mem_of_mem_putBy {item other : α} {items : List α} (h : other ∈ putBy key item items) :
    other = item ∨ other ∈ items := by
  induction items with
  | nil => exact .inl (List.mem_singleton.1 h)
  | cons first items ih =>
    rw [putBy] at h
    by_cases hkey : key first = key item
    · rw [if_pos hkey] at h
      exact (List.mem_cons.1 h).imp_right (List.mem_cons_of_mem _)
    · rw [if_neg hkey] at h
      rcases List.mem_cons.1 h with rfl | h
      · exact .inr List.mem_cons_self
      · exact (ih h).imp_right (List.mem_cons_of_mem _)

theorem mem_of_mem_lastBy {item : α} {items : List α} (h : item ∈ lastBy key items) :
    item ∈ items := by
  induction items using List.reverseRecOn with
  | nil => exact h
  | append_singleton items other ih =>
    rw [lastBy, List.foldl_concat, ← lastBy] at h
    rw [List.mem_append, List.mem_singleton]
    exact (mem_of_mem_putBy h).symm.imp_left ih

end Keys

/-! ## Compiling patterns -/

namespace Pattern

/-- A pattern without the exclamation mark before it. -/
def unmarked (text : Text) : Text :=
  match text with
  | '!' :: source => source
  | source => source

/-- A pattern that compiles: neither it nor what lies below it is too long or badly written. -/
def Compiles (text : Text) : Prop := ∃ p, compile text = .ok p

/-- Whether a pattern, given as text, matches a path. -/
def Matches (text path : Text) : Prop := ∃ p, compile text = .ok p ∧ p.test path = true

theorem compile_eq_ofSource (text : Text) :
    compile text = ofSource (Check.isExclusion text) (unmarked text) := by
  cases text with
  | nil => rfl
  | cons c source =>
    by_cases hc : c = '!'
    · subst hc
      rfl
    · have hcompile : compile (c :: source) = ofSource false (c :: source) := by
        unfold compile
        split
        · next h => exact absurd (List.cons.inj h).1 hc
        · rfl
      have hunmarked : unmarked (c :: source) = c :: source := by
        unfold unmarked
        split
        · next h => exact absurd (List.cons.inj h).1 hc
        · rfl
      have hexclusion : Check.isExclusion (c :: source) = false := by
        simp [Check.isExclusion, hc]
      rw [hcompile, hunmarked, hexclusion]

theorem ofSource_eq_ok {negated : Bool} {source : Text} {p : Pattern}
    (h : ofSource negated source = .ok p) : p.source = source ∧ p.negated = negated := by
  unfold ofSource at h
  dsimp only at h
  split at h
  · cases h
    exact ⟨rfl, rfl⟩
  · cases hitself : glob (body source) with
    | error why => rw [hitself] at h; cases h
    | ok itself =>
      cases hunder : glob (body source ++ below) with
      | error why => rw [hitself, hunder] at h; cases h
      | ok under =>
        rw [hitself, hunder] at h
        cases h
        exact ⟨rfl, rfl⟩

/-- A pattern compiles, or there is a failure that says why it does not. -/
theorem not_compiles_iff {text : Text} : ¬ Compiles text ↔ ∃ why, compile text = .error why := by
  unfold Compiles
  cases compile text <;> simp

/-- A compiled pattern excludes if its text starts with an exclamation mark. -/
theorem negated_of_compile {text : Text} {p : Pattern} (h : compile text = .ok p) :
    p.negated = Check.isExclusion text := by
  rw [compile_eq_ofSource] at h
  exact (ofSource_eq_ok h).2

/-- A compiled pattern keeps its text. -/
theorem text_of_compile {text : Text} {p : Pattern} (h : compile text = .ok p) : p.text = text := by
  unfold compile at h
  unfold Pattern.text
  split at h
  · obtain ⟨hsource, hnegated⟩ := ofSource_eq_ok h
    rw [hsource, hnegated, if_pos rfl]
  · obtain ⟨hsource, hnegated⟩ := ofSource_eq_ok h
    rw [hsource, hnegated, if_neg Bool.false_ne_true]

theorem matches_iff {text path : Text} {p : Pattern} (h : compile text = .ok p) :
    Matches text path ↔ p.test path = true := by
  constructor
  · rintro ⟨q, hq, htest⟩
    rw [h] at hq
    cases hq
    exact htest
  · exact fun htest => ⟨p, h, htest⟩

instance decidableCompiles (text : Text) : Decidable (Compiles text) :=
  match h : compile text with
  | .ok p => isTrue ⟨p, h⟩
  | .error _ => isFalse (not_compiles_iff.2 ⟨_, h⟩)

instance decidableMatches (text path : Text) : Decidable (Matches text path) :=
  match h : compile text with
  | .ok p => decidable_of_iff (p.test path = true) (matches_iff h).symm
  | .error _ => isFalse (by rintro ⟨p, hp, -⟩; rw [h] at hp; cases hp)

end Pattern

namespace PatternSet

/-- Whether an ordered set of patterns, given as texts, includes a path. -/
def Includes (texts : List Text) (path : Text) : Prop :=
  ∃ set, compile texts = .ok set ∧ PatternSet.selects set path = true

theorem compile_eq_ok_iff {texts : List Text} {set : PatternSet} :
    compile texts = .ok set ↔ List.Forall₂ (fun t p => Pattern.compile t = .ok p) texts set := by
  unfold compile
  induction texts generalizing set with
  | nil =>
    rw [List.mapM_nil, List.forall₂_nil_left_iff]
    exact ⟨by rintro ⟨⟩; rfl, by rintro rfl; rfl⟩
  | cons t texts ih =>
    rw [List.mapM_cons, List.forall₂_cons_left_iff]
    cases ht : Pattern.compile t with
    | error why =>
      refine ⟨by rintro ⟨⟩, ?_⟩
      rintro ⟨p, ps, ⟨⟩, -, -⟩
    | ok p =>
      cases hts : texts.mapM Pattern.compile with
      | error why =>
        refine ⟨by rintro ⟨⟩, ?_⟩
        rintro ⟨q, qs, -, hqs, -⟩
        rw [← ih, hts] at hqs
        cases hqs
      | ok ps =>
        have hps := ih.1 hts
        constructor
        · rintro ⟨⟩
          exact ⟨p, ps, rfl, hps, rfl⟩
        · rintro ⟨q, qs, ⟨⟩, hqs, rfl⟩
          rw [← ih, hts] at hqs
          cases hqs
          rfl

/-- Patterns that compile one by one compile together. -/
theorem exists_compile {texts : List Text} (h : ∀ t ∈ texts, Pattern.Compiles t) :
    ∃ set, compile texts = .ok set := by
  induction texts with
  | nil => exact ⟨[], rfl⟩
  | cons t texts ih =>
    obtain ⟨p, hp⟩ := h t List.mem_cons_self
    obtain ⟨ps, hps⟩ := ih fun t' ht' => h t' (List.mem_cons_of_mem _ ht')
    exact ⟨p :: ps, compile_eq_ok_iff.2 (.cons hp (compile_eq_ok_iff.1 hps))⟩

/-- The patterns of a compiled set are the compiled texts. -/
theorem mem_of_compile {texts : List Text} {set : PatternSet} (h : compile texts = .ok set)
    {p : Pattern} : p ∈ set ↔ ∃ t ∈ texts, Pattern.compile t = .ok p := by
  have hall := compile_eq_ok_iff.1 h
  clear h
  induction hall with
  | nil => simp
  | cons ht _ ih =>
    rw [List.mem_cons]
    constructor
    · rintro (rfl | hp)
      · exact ⟨_, List.mem_cons_self, ht⟩
      · obtain ⟨t, hmem, hp⟩ := ih.1 hp
        exact ⟨t, List.mem_cons_of_mem _ hmem, hp⟩
    · rintro ⟨t, hmem, hp⟩
      rcases List.mem_cons.1 hmem with rfl | hmem
      · rw [ht] at hp
        cases hp
        exact .inl rfl
      · exact .inr (ih.2 ⟨t, hmem, hp⟩)

theorem compiles_of_mem {texts : List Text} {set : PatternSet} (h : compile texts = .ok set)
    {t : Text} (ht : t ∈ texts) : Pattern.Compiles t := by
  have hall := compile_eq_ok_iff.1 h
  clear h
  induction hall with
  | nil => cases ht
  | cons hp _ ih =>
    rcases List.mem_cons.1 ht with rfl | ht
    · exact ⟨_, hp⟩
    · exact ih ht

theorem includes_iff {texts : List Text} {set : PatternSet} (h : compile texts = .ok set)
    {path : Text} : Includes texts path ↔ set.selects path = true := by
  constructor
  · rintro ⟨set', hset', hsel⟩
    rw [h] at hset'
    cases hset'
    exact hsel
  · exact fun hsel => ⟨set, h, hsel⟩

instance decidableIncludes (texts : List Text) (path : Text) : Decidable (Includes texts path) :=
  match h : compile texts with
  | .ok set => decidable_of_iff (selects set path = true) (includes_iff h).symm
  | .error _ => isFalse (by rintro ⟨set, hset, -⟩; rw [h] at hset; cases hset)

/-! ### The last pattern that matches -/

/-- Some pattern matches the path, and the last one that does is no exclusion. -/
def LastIncludes (texts : List Text) (path : Text) : Prop :=
  ∃ before t after, texts = before ++ t :: after ∧ Pattern.Matches t path ∧
    Check.isExclusion t = false ∧ ∀ u ∈ after, ¬ Pattern.Matches u path

theorem not_lastIncludes_nil (path : Text) : ¬ LastIncludes [] path := by
  rintro ⟨before, t, after, h, -⟩
  simp at h

theorem lastIncludes_cons {t : Text} {texts : List Text} {path : Text} :
    LastIncludes (t :: texts) path ↔ LastIncludes texts path ∨
      Pattern.Matches t path ∧ Check.isExclusion t = false ∧
        ∀ u ∈ texts, ¬ Pattern.Matches u path := by
  constructor
  · rintro ⟨before, u, after, h, hrest⟩
    cases before with
    | nil =>
      obtain ⟨rfl, rfl⟩ := List.cons.inj h
      exact .inr hrest
    | cons t' before =>
      obtain ⟨-, rfl⟩ := List.cons.inj h
      exact .inl ⟨before, u, after, rfl, hrest⟩
  · rintro (⟨before, u, after, rfl, hrest⟩ | hrest)
    · exact ⟨t :: before, u, after, rfl, hrest⟩
    · exact ⟨[], t, texts, rfl, hrest⟩

instance decidableLastIncludes :
    (texts : List Text) → (path : Text) → Decidable (LastIncludes texts path)
  | [], path => isFalse (not_lastIncludes_nil path)
  | _ :: texts, path =>
    have := decidableLastIncludes texts path
    decidable_of_iff _ lastIncludes_cons.symm

theorem selects_cons {p : Pattern} {set : PatternSet} {path : Text} :
    selects (p :: set) path = true ↔ selects set path = true ∨
      p.test path = true ∧ p.negated = false ∧ ∀ q ∈ set, q.test path = false := by
  unfold selects
  rw [List.reverse_cons, List.find?_append]
  cases hfind : set.reverse.find? (·.test path) with
  | some q =>
    -- a later pattern matches, so this one has no say
    have hq : q ∈ set := List.mem_reverse.1 (List.mem_of_find?_eq_some hfind)
    have htest : q.test path = true := by simpa using List.find?_some hfind
    simp only [Option.some_or]
    refine ⟨.inl, ?_⟩
    rintro (h | ⟨-, -, hnone⟩)
    · exact h
    · rw [hnone q hq] at htest
      cases htest
  | none =>
    have hnone : ∀ q ∈ set, q.test path = false := by simpa using hfind
    cases htest : p.test path with
    | false => simp [htest]
    | true => simpa [htest] using fun _ => hnone

/-- A set includes a path exactly if the last pattern that matches the path is no exclusion. -/
theorem selects_iff_last {texts : List Text} {set : PatternSet} (h : compile texts = .ok set)
    {path : Text} : selects set path = true ↔ LastIncludes texts path := by
  have hall := compile_eq_ok_iff.1 h
  clear h
  induction hall with
  | nil => simpa [selects] using not_lastIncludes_nil path
  | @cons t p texts set hp hset ih =>
    have hnone : (∀ q ∈ set, q.test path = false) ↔ ∀ u ∈ texts, ¬ Pattern.Matches u path := by
      have hmem : ∀ q, q ∈ set ↔ ∃ u ∈ texts, Pattern.compile u = .ok q :=
        fun q => mem_of_compile (compile_eq_ok_iff.2 hset)
      constructor
      · rintro hfree u hu ⟨q, hq, htest⟩
        rw [hfree q ((hmem q).2 ⟨u, hu, hq⟩)] at htest
        cases htest
      · intro hfree q hq
        obtain ⟨u, hu, hq⟩ := (hmem q).1 hq
        have := hfree u hu
        rw [Pattern.matches_iff hq] at this
        simpa using this
    rw [selects_cons, lastIncludes_cons, hnone, Pattern.matches_iff hp,
      Pattern.negated_of_compile hp]
    exact or_congr_left ih

/-- Keeping some patterns of a set is keeping their texts. -/
theorem map_text_filter {texts : List Text} {set : PatternSet} (h : compile texts = .ok set)
    {keep : Pattern → Bool} {keepText : Text → Bool}
    (hkeep : ∀ t p, Pattern.compile t = .ok p → keep p = keepText t) :
    (set.filter keep).map Pattern.text = texts.filter keepText := by
  have hall := compile_eq_ok_iff.1 h
  clear h
  induction hall with
  | nil => rfl
  | @cons t p texts set hp _ ih =>
    rw [List.filter_cons, List.filter_cons, hkeep t p hp, ← ih]
    split
    · rw [List.map_cons, Pattern.text_of_compile hp]
    · rfl

/-- A single pattern selects what it matches, unless it excludes. -/
theorem selects_singleton (p : Pattern) (path : Text) :
    selects [p] path = (p.test path && !p.negated) := by
  unfold selects
  cases h : p.test path <;> simp [h]

end PatternSet

/-! ## Selections -/

/-- What a set selects, said of the texts of its patterns: the paths whose last match is no
exclusion, and then the texts that exclude or that match none of these paths. -/
theorem selections_eq {texts : List Text} {set : PatternSet}
    (h : PatternSet.compile texts = .ok set) (paths : List Text) :
    let selected := paths.filter fun path => PatternSet.LastIncludes texts path
    let unused := texts.filter fun t =>
      Check.isExclusion t = true ∨ ∀ path ∈ selected, ¬ Pattern.Matches t path
    selections set paths = selected.map .path ++ unused.map .unused := by
  intro selected unused
  have hselected : paths.filter set.selects = selected := by
    refine List.filter_congr fun path _ => ?_
    rw [Bool.eq_iff_iff, PatternSet.selects_iff_last h, decide_eq_true_eq]
  have hunused : (set.filter fun p => p.negated || !selected.any p.test).map
      Pattern.text = unused := by
    refine PatternSet.map_text_filter h fun t p hp => ?_
    rw [Bool.eq_iff_iff, Pattern.negated_of_compile hp]
    simp [Pattern.matches_iff hp]
  rw [selections, hselected, ← hunused, List.map_map]
  rfl

namespace Check

theorem selectedPaths_selections (set : PatternSet) (paths : List Text) :
    selectedPaths (selections set paths) = paths.filter set.selects := by
  unfold selectedPaths selections
  rw [List.filterMap_append, List.filterMap_map, List.filterMap_map]
  simp

/-- The patterns that are reported as unused, exclusions left out: no path that the set selects is
matched by them. -/
theorem mem_unusedPatterns_iff {texts : List Text} {set : PatternSet}
    (hset : PatternSet.compile texts = .ok set) {paths : List Text} {t : Text} :
    t ∈ unusedPatterns (selections set paths) ↔
      t ∈ texts ∧ isExclusion t = false ∧
        ¬ ∃ path ∈ paths, PatternSet.Includes texts path ∧ Pattern.Matches t path := by
  have hunused : t ∈ unusedPatterns (selections set paths) ↔
      ∃ p ∈ set, (p.negated = true ∨ ∀ path ∈ paths, set.selects path = true →
        p.test path = false) ∧
        isExclusion p.text = false ∧ p.text = t := by
    unfold unusedPatterns selections
    rw [List.mem_eraseDups, List.filterMap_append, List.filterMap_map, List.filterMap_map]
    simp [and_assoc]
  rw [hunused]
  constructor
  · rintro ⟨p, hp, hfree, hex, rfl⟩
    obtain ⟨t, ht, hcompile⟩ := (PatternSet.mem_of_compile hset).1 hp
    rw [Pattern.text_of_compile hcompile] at hex ⊢
    refine ⟨ht, hex, ?_⟩
    rintro ⟨path, hpath, hinc, hmatch⟩
    rw [PatternSet.includes_iff hset] at hinc
    rw [Pattern.matches_iff hcompile] at hmatch
    rcases hfree with hneg | hfree
    · rw [Pattern.negated_of_compile hcompile, hex] at hneg
      cases hneg
    · rw [hfree path hpath hinc] at hmatch
      cases hmatch
  · rintro ⟨ht, hex, hnone⟩
    obtain ⟨p, hcompile⟩ := PatternSet.compiles_of_mem hset ht
    have hp : p ∈ set := (PatternSet.mem_of_compile hset).2 ⟨t, ht, hcompile⟩
    have htext := Pattern.text_of_compile hcompile
    refine ⟨p, hp, .inr ?_, by rw [htext]; exact hex, htext⟩
    intro path hpath hsel
    by_contra hmatch
    refine hnone ⟨path, hpath, (PatternSet.includes_iff hset).2 hsel, ?_⟩
    exact (Pattern.matches_iff hcompile).2 (by simpa using hmatch)

end Check

/-! ## Selections from a change -/

namespace Session

/-- What patterns select from the paths of a change: every path once, in the order in which they are
listed, if the last pattern that matches it is no exclusion; and then every pattern that excludes or
that matches none of these paths, as it was given and as often as it was given. -/
theorem select_eq {change : Change} {listed : List ChangedFile}
    (hlisted : (change.source.changedFiles ()).outcome = .ok listed) {patterns : List Text}
    (hne : patterns ≠ []) (hcompiles : ∀ t ∈ patterns, Pattern.Compiles t)
    {s : SessionState} (hs : s.memo.Faithful change.source) :
    let selected := (listed.map (·.path)).eraseDups.filter fun path =>
      PatternSet.LastIncludes patterns path
    let unused := patterns.filter fun t =>
      Check.isExclusion t = true ∨ ∀ path ∈ selected, ¬ Pattern.Matches t path
    (select change patterns s).outcome = .ok (selected.map .path ++ unused.map .unused) := by
  intro selected unused
  obtain ⟨set, hset⟩ := PatternSet.exists_compile hcompiles
  rw [(settles_select hlisted hne hset).outcome hs, map_lastBy, selections_eq hset]

/-- A change to four paths, one of them listed twice. -/
def repeatedChange : Change where
  source :=
    { root := none
      exemptPatterns := []
      changedFiles :=
        pure [⟨"b.c".toList, .added⟩, ⟨"a.c".toList, .modified⟩, ⟨"x/d".toList, .modified⟩,
        ⟨"b.c".toList, .deleted⟩, ⟨"a.h".toList, .modified⟩]
      filePatch := fun _ => pure none
      treeFiles := pure [] }
  exempt := []

/-- Patterns in which one is given twice and shadowed by an exclusion, and another brings back what
an exclusion took away. -/
def shadowedPatterns : List Text := ["b.c", "*.c", "b.c", "!b.c", "!x", "x/"].map String.toList

theorem select_eq_shadowed :
    shadowedPatterns ≠ [] ∧ (∀ t ∈ shadowedPatterns, Pattern.Compiles t) ∧
      (select repeatedChange shadowedPatterns {}).outcome =
        .ok (["a.c", "x/d"].map (.path ·.toList) ++
          ["b.c", "b.c", "!b.c", "!x"].map (.unused ·.toList)) := by
  have hne : shadowedPatterns ≠ [] := by decide
  have hcompiles : ∀ t ∈ shadowedPatterns, Pattern.Compiles t := by decide +kernel
  refine ⟨hne, hcompiles, ?_⟩
  rw [select_eq rfl hne hcompiles (Memo.faithful_empty repeatedChange.source)]
  decide +kernel

end Session

end Lockstep
