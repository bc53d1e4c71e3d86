import Lockstep.Proofs.Memory
import Lockstep.Proofs.Scan
import Lockstep.Proofs.Unmet

/-!
# The verdict on a file

`checkFile_eq_nil_iff` says exactly when the check of a file finds nothing wrong:
the markers of the file are in order, and every block that the change touches has
all of its obligations met (`Clean`).  The obligations without a name are judged
together, those with a name one by one.

For each function of the check there is one lemma, that it settles on some
violations, and on none exactly if what it looks at is in order; the lemma for a
caller is put together from those for the functions it calls.  For the obligations
without a name, `Check.settles_checkPlain` also says which violations these are.
-/

namespace Lockstep

/-- Whether the change touches a range of a file, asked in a session of its own. -/
def Touched (change : Change) (path : Text) (range : LineRange) : Prop :=
  (Session.touches change path range {}).outcome = .ok true

theorem Answering.touched_iff {change : Change} (a : Answering change.source) {path : Text}
    {range : LineRange} : Touched change path range ↔ a.touches path range = true := by
  have h := (a.settles_touches path range).outcome (s := {}) (Memo.faithful_empty _)
  rw [Touched, h, Except.ok.injEq]

namespace Check

open Session

/-! ## What has to hold -/

/-- The first block of a name among findings, with no errors before it. -/
def FirstNamed (name : Text) (fs : List Finding) (b : Block) : Prop :=
  ∃ (before : List Block) (after : List Finding), fs = before.map .block ++ .block b :: after ∧
    b.name = some name ∧ ∀ b' ∈ before, b'.name ≠ some name

/-- The patterns of the obligations without a name, seen from the root, in order. -/
def plainPatterns (file : Text) (b : Block) : List Text :=
  (b.obligations.filter (·.name.isNone)).map fun o => rooted file o.pattern

section Conditions

variable {change : Change} (a : Answering change.source) (disk : FileTree) (file : Text) (b : Block)

/-- Every obligation without a name that is not an exclusion matches a changed path that all of them
together include. -/
def PlainMet : Prop :=
  ∀ o ∈ b.obligations, o.name = none → isExclusion (rooted file o.pattern) = false →
    ∃ path ∈ a.listed.map (·.path), PatternSet.Includes (plainPatterns file b) path ∧
      Pattern.Matches (rooted file o.pattern) path

/-- A file that can be read and has a block of the name, before any errors, that is touched. -/
def HasTouched (name target : Text) : Prop :=
  ∃ text b, disk.read (Path.join a.root target) = .ok text ∧ FirstNamed name (findings text) b ∧
    Touched change target b.range

/-- Every obligation with a name that is not an exclusion matches a changed path, and in every
changed path it matches the block of the name is touched. -/
def NamedMet : Prop :=
  ∀ o ∈ b.obligations, ∀ name, o.name = some name → isExclusion (rooted file o.pattern) = false →
    (∃ path ∈ a.listed.map (·.path), Pattern.Matches (rooted file o.pattern) path) ∧
      ∀ path ∈ a.listed.map (·.path), Pattern.Matches (rooted file o.pattern) path →
        HasTouched a disk name path

/-- A text without errors in its markers, whose touched blocks have all their obligations met. -/
def Clean (text : Text) : Prop :=
  (∀ errors, Finding.broken errors ∉ findings text) ∧
    ∀ b, Finding.block b ∈ findings text → Touched change file b.range →
      PlainMet a file b ∧ NamedMet a disk file b

end Conditions

variable {change : Change} (a : Answering change.source) (disk : FileTree)

theorem mem_paths_iff {path : Text} : path ∈ a.paths ↔ path ∈ a.listed.map (·.path) :=
  mem_lastBy_keys

/-! ## Demands without a name -/

theorem settles_checkPlain_iff {ds : List Demand}
    (hcompiles : ∀ d ∈ ds, Pattern.Compiles d.pattern) :
    ∃ vs, Settles change (checkPlain change ds) (.ok vs) ∧
      (vs = [] ↔ ∀ d ∈ ds, isExclusion d.pattern = false → ∃ path ∈ a.listed.map (·.path),
        PatternSet.Includes (ds.map (·.pattern)) path ∧ Pattern.Matches d.pattern path) := by
  obtain ⟨vs, hvs, hperm⟩ := settles_checkPlain a.changedFiles_eq a.treeFiles_eq hcompiles
  refine ⟨vs, hvs, ?_⟩
  have hnil : vs = [] ↔ ∀ d ∈ ds, ¬ Unmet a.listed (ds.map (·.pattern)) d.pattern := by
    rw [← List.length_eq_zero_iff, hperm.length_eq, List.length_eq_zero_iff]
    simp
  rw [hnil]
  refine forall₂_congr ?_
  intro d _
  simp only [Unmet, not_and, not_not]

/-! ## Demands with a name -/

/-- A search finds the first block of the name. -/
theorem lookup_eq_found_iff {name : Text} {fs : List Finding} {b : Block} :
    lookup name fs = .found b ↔ FirstNamed name fs b := by
  induction fs with
  | nil =>
    refine ⟨by rintro ⟨⟩, ?_⟩
    rintro ⟨before, after, h, -, -⟩
    simp at h
  | cons f fs ih =>
    cases f with
    | broken errors =>
      refine ⟨by rintro ⟨⟩, ?_⟩
      rintro ⟨before, after, h, -, -⟩
      cases before <;> simp at h
    | block c =>
      rw [lookup]
      split
      · next hc =>
        constructor
        · rintro ⟨⟩
          exact ⟨[], fs, rfl, hc, by simp⟩
        · rintro ⟨before, after, h, -, hbefore⟩
          cases before with
          | nil => simp at h; rw [h.1]
          | cons c' before =>
            simp at h
            exact absurd (h.1 ▸ hc) (hbefore c' List.mem_cons_self)
      · next hc =>
        rw [ih]
        constructor
        · rintro ⟨before, after, h, hb, hbefore⟩
          refine ⟨c :: before, after, by simp [h], hb, ?_⟩
          intro b' hb'
          rcases List.mem_cons.1 hb' with rfl | hb'
          · exact hc
          · exact hbefore b' hb'
        · rintro ⟨before, after, h, hb, hbefore⟩
          cases before with
          | nil =>
            simp at h
            exact absurd (h.1 ▸ hb) hc
          | cons c' before =>
            simp at h
            exact ⟨before, after, h.2, hb, fun b' hb' => hbefore b' (List.mem_cons_of_mem _ hb')⟩

theorem broken_mem_of_lookup {name : Text} {fs : List Finding} {errors : List BlockError}
    (h : lookup name fs = .broken errors) : Finding.broken errors ∈ fs := by
  induction fs with
  | nil => cases h
  | cons f fs ih =>
    cases f with
    | broken errors' => cases h; exact List.mem_cons_self
    | block c =>
      rw [lookup] at h
      split at h
      · cases h
      · exact List.mem_cons_of_mem _ (ih h)

theorem settles_checkTarget (d : Demand) (name target : Text) :
    ∃ vs, Settles change (checkTarget change disk d name target) (.ok vs) ∧
      (vs = [] ↔ HasTouched a disk name target) := by
  have hplace := a.settles_locate target
  cases hread : disk.read (Path.join a.root target) with
  | error fault =>
    refine ⟨[.unopenable target d.stated fault], hplace.andThen ?_, by simp, ?_⟩
    · simp only [hread]
      exact settles_pure _
    · rintro ⟨text, b, h, -⟩
      rw [hread] at h
      cases h
  | ok text =>
    -- only a block that is found can be touched
    have hfound : ∀ b, lookup name (findings text) = .found b →
        (HasTouched a disk name target ↔ a.touches target b.range = true) := by
      intro b hb
      rw [← a.touched_iff]
      constructor
      · rintro ⟨text', b', h, hfirst, ht⟩
        rw [hread] at h
        cases h
        rw [← lookup_eq_found_iff, hb] at hfirst
        cases hfirst
        exact ht
      · exact fun ht => ⟨text, b, hread, lookup_eq_found_iff.1 hb, ht⟩
    have hlost : (∀ b, lookup name (findings text) ≠ .found b) →
        ¬ HasTouched a disk name target := by
      rintro hnone ⟨text', b, h, hfirst, -⟩
      rw [hread] at h
      cases h
      exact hnone b (lookup_eq_found_iff.2 hfirst)
    cases hlook : lookup name (findings text) with
    | found b =>
      refine ⟨if a.touches target b.range then [] else [.untouched target d.stated],
        hplace.andThen ?_, ?_⟩
      · simp only [hread, hlook]
        exact (a.settles_touches target b.range).andThen (settles_pure _)
      · rw [hfound b hlook]
        split <;> simp [*]
    | broken errors =>
      have hne := findings_broken_ne_nil (broken_mem_of_lookup hlook)
      refine ⟨errors.map (.malformed target), hplace.andThen ?_, ?_⟩
      · simp only [hread, hlook]
        exact settles_pure _
      · exact ⟨fun h => absurd (List.map_eq_nil_iff.1 h) hne,
          fun h => absurd h (hlost (by rw [hlook]; rintro b ⟨⟩))⟩
    | absent =>
      refine ⟨[.noBlock name target d.stated], hplace.andThen ?_, by simp, ?_⟩
      · simp only [hread, hlook]
        exact settles_pure _
      · exact fun h => absurd h (hlost (by rw [hlook]; rintro b ⟨⟩))

theorem settles_checkTargets (d : Demand) (name : Text) (targets : List Text) :
    ∃ vs, Settles change (checkTargets change disk d name targets) (.ok vs) ∧
      (vs = [] ↔ ∀ target ∈ targets, HasTouched a disk name target) := by
  induction targets with
  | nil => exact ⟨[], settles_pure _, by simp⟩
  | cons target targets ih =>
    obtain ⟨vs, hvs, hiff⟩ := settles_checkTarget a disk d name target
    obtain ⟨more, hmore, hiff'⟩ := ih
    refine ⟨vs ++ more, hvs.andThen (hmore.andThen (settles_pure _)), ?_⟩
    rw [List.append_eq_nil_iff, hiff, hiff', List.forall_mem_cons]

theorem selects_of_compile {d : Demand} {p : Pattern} (hp : Pattern.compile d.pattern = .ok p)
    {path : Text} : PatternSet.selects [p] path = true ↔
      isExclusion d.pattern = false ∧ Pattern.Matches d.pattern path := by
  rw [PatternSet.selects_singleton, Pattern.negated_of_compile hp, Pattern.matches_iff hp,
    Bool.and_eq_true, Bool.not_eq_true', and_comm]

theorem settles_checkNamed {d : Demand} (hcompiles : Pattern.Compiles d.pattern) (name : Text) :
    ∃ vs, Settles change (checkNamed change disk d name) (.ok vs) ∧
      (vs = [] ↔ (isExclusion d.pattern = false →
        (∃ path ∈ a.listed.map (·.path), Pattern.Matches d.pattern path) ∧
          ∀ path ∈ a.listed.map (·.path), Pattern.Matches d.pattern path →
            HasTouched a disk name path)) := by
  obtain ⟨p, hp⟩ := hcompiles
  have hset : PatternSet.compile [d.pattern] = .ok [p] :=
    PatternSet.compile_eq_ok_iff.2 (.cons hp .nil)
  have hselect := a.settles_select (List.cons_ne_nil _ _) hset
  set targets := selectedPaths (selections [p] a.paths) with htargets
  have hmem : ∀ path, path ∈ targets ↔ path ∈ a.listed.map (·.path) ∧
      isExclusion d.pattern = false ∧ Pattern.Matches d.pattern path := by
    intro path
    rw [htargets, selectedPaths_selections, List.mem_filter, mem_paths_iff, selects_of_compile hp]
  by_cases hnone : targets = []
  · -- nothing is selected, which only an exclusion may do
    have hno : ∀ path ∈ a.listed.map (·.path), isExclusion d.pattern = false →
        ¬ Pattern.Matches d.pattern path := by
      intro path hpath hex hmatch
      have := (hmem path).2 ⟨hpath, hex, hmatch⟩
      rw [hnone] at this
      cases this
    cases hex : isExclusion d.pattern with
    | true =>
      refine ⟨[], hselect.andThen ?_, by simp⟩
      simp only [← htargets, hnone, hex]
      exact settles_pure _
    | false =>
      have hv := settles_unmet a.treeFiles_eq ⟨p, hp⟩ hex
      refine ⟨[d.violation a.tree], hselect.andThen ?_, by simp, ?_⟩
      · simp only [← htargets, hnone, hex]
        exact hv.andThen (settles_pure _)
      · intro h
        obtain ⟨⟨path, hpath, hmatch⟩, -⟩ := h rfl
        exact absurd hmatch (hno path hpath hex)
  · obtain ⟨vs, hvs, hiff⟩ := settles_checkTargets a disk d name targets
    refine ⟨vs, hselect.andThen ?_, ?_⟩
    · have hsome : (!targets.isEmpty) = true := by simpa using hnone
      simp only [← htargets, hsome]
      exact hvs
    · obtain ⟨first, hfirst⟩ := List.exists_mem_of_ne_nil _ hnone
      obtain ⟨hpath, hex, hmatch⟩ := (hmem first).1 hfirst
      rw [hiff]
      constructor
      · exact fun h _ => ⟨⟨first, hpath, hmatch⟩,
          fun path hpath hmatch => h path ((hmem path).2 ⟨hpath, hex, hmatch⟩)⟩
      · intro h path htarget
        obtain ⟨hpath, -, hmatch⟩ := (hmem path).1 htarget
        exact (h hex).2 path hpath hmatch

theorem settles_checkAllNamed {ds : List Demand}
    (hcompiles : ∀ d ∈ ds, Pattern.Compiles d.pattern) :
    ∃ vs, Settles change (checkAllNamed change disk ds) (.ok vs) ∧
      (vs = [] ↔ ∀ d ∈ ds, ∀ name, d.name = some name → isExclusion d.pattern = false →
        (∃ path ∈ a.listed.map (·.path), Pattern.Matches d.pattern path) ∧
          ∀ path ∈ a.listed.map (·.path), Pattern.Matches d.pattern path →
            HasTouched a disk name path) := by
  induction ds with
  | nil => exact ⟨[], settles_pure _, by simp⟩
  | cons d ds ih =>
    obtain ⟨more, hmore, hiff'⟩ := ih fun d' hd' => hcompiles d' (List.mem_cons_of_mem _ hd')
    rw [checkAllNamed]
    cases hname : d.name with
    | none =>
      refine ⟨more, hmore, ?_⟩
      rw [hiff', List.forall_mem_cons, hname]
      simp
    | some name =>
      obtain ⟨vs, hvs, hiff⟩ := settles_checkNamed a disk (hcompiles d List.mem_cons_self) name
      refine ⟨vs ++ more, hvs.andThen (hmore.andThen (settles_pure _)), ?_⟩
      rw [List.append_eq_nil_iff, hiff, hiff', List.forall_mem_cons, hname]
      simp

/-! ## Blocks and files -/

theorem settles_checkBlock (file : Text) {b : Block}
    (hcompiles : ∀ o ∈ b.obligations, Pattern.Compiles (rooted file o.pattern)) :
    ∃ vs, Settles change (checkBlock change disk file b) (.ok vs) ∧
      (vs = [] ↔ PlainMet a file b ∧ NamedMet a disk file b) := by
  set ds := b.obligations.map (Demand.ofObligation file) with hds
  have hall : ∀ d ∈ ds, Pattern.Compiles d.pattern := by
    intro d hd
    obtain ⟨o, ho, rfl⟩ := List.mem_map.1 hd
    exact hcompiles o ho
  have hplain : (ds.filter (·.name.isNone)).map (·.pattern) = plainPatterns file b := by
    rw [hds, List.filter_map, List.map_map]
    rfl
  obtain ⟨vs, hvs, hiff⟩ :=
    settles_checkPlain_iff a fun d hd => hall d (List.mem_filter.1 hd).1
  obtain ⟨more, hmore, hiff'⟩ := settles_checkAllNamed a disk hall
  refine ⟨vs ++ more, hvs.andThen (hmore.andThen (settles_pure _)), ?_⟩
  rw [List.append_eq_nil_iff, hiff, hiff', hplain]
  refine and_congr ?_ ?_
  · simp [PlainMet, hds, Demand.ofObligation]
  · simp [NamedMet, hds, Demand.ofObligation]

/-- Violations add up from block to block, until errors in the markers take their place. -/
theorem settles_checkFindings (file : Text) {fs : List Finding}
    (hcompiles : ∀ b, Finding.block b ∈ fs →
      ∀ o ∈ b.obligations, Pattern.Compiles (rooted file o.pattern))
    (herrors : ∀ errors, Finding.broken errors ∈ fs → errors ≠ []) (before : List Violation) :
    ∃ vs, Settles change (checkFindings change disk file before fs) (.ok vs) ∧
      (vs = [] ↔ before = [] ∧ (∀ errors, Finding.broken errors ∉ fs) ∧
        ∀ b, Finding.block b ∈ fs → Touched change file b.range →
          PlainMet a file b ∧ NamedMet a disk file b) := by
  induction fs generalizing before with
  | nil => exact ⟨before, settles_pure _, by simp⟩
  | cons f fs ih =>
    cases f with
    | broken errors =>
      have hne := herrors errors List.mem_cons_self
      refine ⟨errors.map (.malformed file), settles_pure _, ?_⟩
      exact ⟨fun h => absurd (List.map_eq_nil_iff.1 h) hne,
        fun h => absurd List.mem_cons_self (h.2.1 errors)⟩
    | block b =>
      have ih := ih (fun b' hb' => hcompiles b' (List.mem_cons_of_mem _ hb'))
        (fun errors he => herrors errors (List.mem_cons_of_mem _ he))
      have htouch := a.settles_touches file b.range
      cases ht : a.touches file b.range with
      | true =>
        rw [ht] at htouch
        obtain ⟨vs, hvs, hiff⟩ := settles_checkBlock a disk file (hcompiles b List.mem_cons_self)
        obtain ⟨all, hall, hiff'⟩ := ih (before ++ vs)
        refine ⟨all, htouch.andThen ?_, ?_⟩
        · rw [if_pos rfl]
          exact hvs.andThen hall
        · rw [hiff', List.append_eq_nil_iff, hiff]
          have hb : Touched change file b.range := a.touched_iff.2 ht
          simp only [List.mem_cons, Finding.block.injEq, reduceCtorEq, false_or, forall_eq_or_imp,
            hb, forall_const]
          tauto
      | false =>
        rw [ht] at htouch
        obtain ⟨all, hall, hiff'⟩ := ih before
        refine ⟨all, htouch.andThen ?_, ?_⟩
        · rw [if_neg Bool.false_ne_true]
          exact hall
        · rw [hiff']
          have hb : ¬ Touched change file b.range := by
            rw [a.touched_iff, ht]; exact Bool.false_ne_true
          simp only [List.mem_cons, Finding.block.injEq, reduceCtorEq, false_or, forall_eq_or_imp,
            hb, false_imp_iff, true_and]

/-- The check of a file that can be read finds nothing wrong exactly if the file is clean. -/
theorem checkFile_eq_nil_iff {file text : Text}
    (hread : disk.read (Path.join a.root file) = .ok text)
    (hcompiles : ∀ b, Finding.block b ∈ findings text → ∀ o ∈ b.obligations,
      Pattern.Compiles (rooted file o.pattern))
    {s : SessionState} (hs : s.memo.Faithful change.source) :
    (checkFile change disk file s).outcome = .ok [] ↔ Clean a disk file text := by
  obtain ⟨vs, hvs, hiff⟩ := settles_checkFindings a disk file hcompiles
    (fun _ => findings_broken_ne_nil) []
  have hfile : Settles change (checkFile change disk file) (.ok vs) := by
    refine (a.settles_locate file).andThen ?_
    rw [hread]
    exact hvs
  rw [hfile.outcome hs, Except.ok.injEq, hiff, Clean]
  simp only [true_and]

/-- A change to two files that name each other. -/
def pairChange : Change where
  source :=
    { root := some "/repo".toList
      exemptPatterns := []
      changedFiles := pure [⟨['a'], .modified⟩, ⟨['b'], .added⟩]
      filePatch := fun path =>
        pure (if path = ['a'] then
          some ⟨['a'], .modified, [.ofEdits (.finite 1) (.finite 1) [.remove, .add]]⟩ else none)
      treeFiles := pure [['a'], ['b']] }
  exempt := []

/-- What the source of the pair answers. -/
def pairAnswers : Answering pairChange.source where
  root := "/repo".toList
  listed := [⟨['a'], .modified⟩, ⟨['b'], .added⟩]
  patch := fun path =>
    if path = ['a'] then some ⟨['a'], .modified, [.ofEdits (.finite 1) (.finite 1) [.remove, .add]]⟩
    else none
  tree := [['a'], ['b']]
  root_eq := rfl
  changedFiles_eq := rfl
  filePatch_eq := fun _ => rfl
  treeFiles_eq := rfl

/-- The first file of the pair: it needs a change of the other, and of a block in it. -/
def pairText : Text := "// if-changed\n// then-change(b:part, *, !c)\n".toList

/-- The two files of the pair. -/
def pairDisk : FileTree :=
  .ofFiles "/repo".toList
    [(['a'], .file pairText), (['b'], .file "# if-changed(part)\n# then-change(a)\n".toList)]

/-- Both files of the pair are changed, so the first one is clean. -/
theorem checkFile_eq_nil_iff_pair :
    pairDisk.read (Path.join pairAnswers.root ['a']) = .ok pairText ∧
      (checkFile pairChange pairDisk ['a'] {}).outcome = .ok [] ∧
      Clean pairAnswers pairDisk ['a'] pairText := by
  have hread : pairDisk.read (Path.join pairAnswers.root ['a']) = .ok pairText := by decide
  have hfindings : findings pairText =
      [.block ⟨none, ⟨1, 2⟩, [⟨['b'], some "part".toList, 2⟩, ⟨['*'], none, 2⟩,
        ⟨['!', 'c'], none, 2⟩]⟩] := by decide
  have hcompiles : ∀ b, Finding.block b ∈ findings pairText → ∀ o ∈ b.obligations,
      Pattern.Compiles (rooted ['a'] o.pattern) := by
    intro b hb
    rw [hfindings, List.mem_singleton, Finding.block.injEq] at hb
    subst hb
    decide +kernel
  have hnone : (checkFile pairChange pairDisk ['a'] {}).outcome = .ok [] := by decide +kernel
  exact ⟨hread, hnone,
    (checkFile_eq_nil_iff pairAnswers pairDisk hread hcompiles (Memo.faithful_empty _)).1 hnone⟩

end Check

end Lockstep
