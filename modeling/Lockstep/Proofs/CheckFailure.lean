import Lockstep.Proofs.Block.Names
import Lockstep.Proofs.Block.Nesting
import Lockstep.Proofs.Block.RoundTrip
import Lockstep.Proofs.Glob.Literal
import Lockstep.Proofs.Verdict

/-!
# When the check of a file fails

What is wrong with a file is reported, whatever stands in it; but a check can also
fail, and then nothing is reported at all.  `checkFile_outcome_iff` says exactly
when: over a source that answers, the check of a file gives its violations if all
patterns of the blocks that the change touches compile, and otherwise it fails as
the first of them does that does not compile, for being too long or badly written.

A session *hinges* on a reason (`Session.Hinges`) if it settles on a value where
there is none, and fails for the reason where there is one.  Every function of the
check hinges on the patterns that it is given, and the reason of a caller is the
first of those of the functions it calls.
-/

namespace Lockstep

/-! ## Patterns that do not compile -/

/-- Why there is no value, if there is none. -/
def reason? {α : Type} : Except Failure α → Option Failure
  | .ok _ => none
  | .error why => some why

theorem reason?_eq_none_iff {α : Type} {x : Except Failure α} :
    reason? x = none ↔ ∃ a, x = .ok a := by
  cases x <;> simp [reason?]

theorem reason?_eq_some_iff {α : Type} {x : Except Failure α} {why : Failure} :
    reason? x = some why ↔ x = .error why := by
  cases x <;> simp [reason?]

theorem reason?_bind {α β : Type} (x : Except Failure α) {f : α → Except Failure β}
    {r : Option Failure} (h : ∀ a, reason? (f a) = r) : reason? (x >>= f) = (reason? x).or r := by
  cases x with
  | ok a => exact h a
  | error why => rfl

theorem Pattern.glob_eq_error {t : Text} {why : Failure} (h : glob t = .error why) :
    why = .patternTooLong ∨ ∃ e, why = .badPattern e := by
  unfold glob at h
  split at h
  · cases h
    exact .inl rfl
  · cases hread : Glob.read t with
    | ok g => rw [hread] at h; cases h
    | error e =>
      rw [hread] at h
      cases h
      exact .inr ⟨e, rfl⟩

/-- A pattern is too long or badly written if it does not compile. -/
theorem Pattern.compile_eq_error {text : Text} {why : Failure} (h : compile text = .error why) :
    why = .patternTooLong ∨ ∃ e, why = .badPattern e := by
  rw [compile_eq_ofSource, ofSource, ← reason?_eq_some_iff] at h
  split at h
  · cases h
  · -- the pattern itself comes first, and then what lies below it
    rw [reason?_bind _ fun itself => reason?_bind (r := none) _ fun under => rfl, Option.or_none,
      Option.or_eq_some_iff] at h
    rcases h with h | ⟨-, h⟩
    · exact glob_eq_error (reason?_eq_some_iff.1 h)
    · exact glob_eq_error (reason?_eq_some_iff.1 h)

-- beside a class of Unicode, a dash must not stand behind a backslash
example : ¬ Pattern.Compiles "[[:digit:]]-x".toList := by decide +kernel

namespace PatternSet

/-- A set compiles like its patterns one after the other. -/
theorem reason?_compile_cons (t : Text) (texts : List Text) :
    reason? (compile (t :: texts)) =
      (reason? (Pattern.compile t)).or (reason? (compile texts)) := by
  unfold compile
  rw [List.mapM_cons]
  refine reason?_bind _ fun p => ?_
  rw [reason?_bind (r := none) _ fun ps => rfl, Option.or_none]

theorem reason?_compile_append (texts more : List Text) :
    reason? (compile (texts ++ more)) = (reason? (compile texts)).or (reason? (compile more)) := by
  induction texts with
  | nil => rfl
  | cons t texts ih =>
    rw [List.cons_append, reason?_compile_cons, reason?_compile_cons, ih, Option.or_assoc]

theorem reason?_compile_singleton (t : Text) :
    reason? (compile [t]) = reason? (Pattern.compile t) := by
  rw [reason?_compile_cons]
  exact Option.or_none

theorem compile_eq_error {texts : List Text} {why : Failure} (h : compile texts = .error why) :
    ∃ t ∈ texts, Pattern.compile t = .error why := by
  rw [← reason?_eq_some_iff] at h
  induction texts with
  | nil => cases h
  | cons t texts ih =>
    rw [reason?_compile_cons, Option.or_eq_some_iff] at h
    rcases h with h | ⟨-, h⟩
    · exact ⟨t, List.mem_cons_self, reason?_eq_some_iff.1 h⟩
    · obtain ⟨u, hu, hwhy⟩ := ih h
      exact ⟨u, List.mem_cons_of_mem _ hu, hwhy⟩

theorem exists_compile_iff {texts : List Text} :
    (∃ set, compile texts = .ok set) ↔ ∀ t ∈ texts, Pattern.Compiles t :=
  ⟨fun ⟨_, hset⟩ _ ht => compiles_of_mem hset ht, exists_compile⟩

end PatternSet

namespace Session

variable {change : Change} {α β : Type}

/-! ## Sessions that hinge on a reason -/

/-- A session that settles on a value unless there is a reason against it; then it fails so. -/
def Hinges (change : Change) (reason : Option Failure) (m : Session α) : Prop :=
  ∃ x, Settles change m x ∧ reason? x = reason

/-- Of two sessions one after the other the second one is run only if nothing speaks against the
first one. -/
theorem Hinges.bind {r q : Option Failure} {m : Session α} {f : α → Session β}
    (hm : Hinges change r m) (hf : ∀ a, Hinges change q (f a)) :
    Hinges change (r.or q) (m >>= f) := by
  obtain ⟨x, hx, rfl⟩ := hm
  cases x with
  | error why => exact ⟨.error why, hx.bind_error, rfl⟩
  | ok a =>
    obtain ⟨y, hy, rfl⟩ := hf a
    exact ⟨y, hx.andThen hy, rfl⟩

theorem hinges_of_settles {m : Session α} {a : α} (h : Settles change m (.ok a)) :
    Hinges change none m :=
  ⟨.ok a, h, rfl⟩

/-- A session behind one that settles on a value. -/
theorem Hinges.after {r : Option Failure} {m : Session α} {f : α → Session β} {a : α}
    (hm : Settles change m (.ok a)) (hf : Hinges change r (f a)) : Hinges change r (m >>= f) := by
  obtain ⟨y, hy, rfl⟩ := hf
  exact ⟨y, hm.andThen hy, rfl⟩

/-- A session with something behind it that nothing can speak against. -/
theorem Hinges.map {r : Option Failure} {m : Session α} (hm : Hinges change r m) (f : α → β) :
    Hinges change r (m >>= fun a => pure (f a)) := by
  have h := hm.bind fun a => hinges_of_settles (settles_pure (f a))
  rwa [Option.or_none] at h

/-- A session that gives a value as soon as nothing speaks against its first step. -/
theorem Hinges.of_first {r : Option Failure} {m : Session α} {f : α → Session β}
    (hm : Hinges change r m) (hrest : r = none → ∃ b, Settles change (m >>= f) (.ok b)) :
    Hinges change r (m >>= f) := by
  obtain ⟨x, hx, rfl⟩ := hm
  cases x with
  | error why => exact ⟨.error why, hx.bind_error, rfl⟩
  | ok a =>
    obtain ⟨b, hb⟩ := hrest rfl
    exact hinges_of_settles hb

theorem hinges_select (a : Answering change.source) {patterns : List Text} (hne : patterns ≠ []) :
    Hinges change (reason? (PatternSet.compile patterns)) (select change patterns) := by
  cases hset : PatternSet.compile patterns with
  | ok set => exact hinges_of_settles (a.settles_select hne hset)
  | error why =>
    refine ⟨.error why, a.settles_changedFiles.andThen ?_, rfl⟩
    rw [if_neg (by simpa using hne), hset]
    exact (settles_ofExcept (.error why)).bind_error

end Session

namespace Check

open Session

variable {change : Change} (a : Answering change.source) (disk : FileTree) (file : Text)

include a

/-! ## The parts of the check -/

theorem hinges_checkPlain (ds : List Demand) :
    Hinges change (reason? (PatternSet.compile (ds.map (·.pattern)))) (checkPlain change ds) := by
  by_cases hnil : ds = []
  · subst hnil
    exact hinges_of_settles (settles_pure [])
  · have hgives : reason? (PatternSet.compile (ds.map (·.pattern))) = none →
        ∃ vs, Settles change (checkPlain change ds) (.ok vs) := by
      intro hnone
      have hcompiles : ∀ d ∈ ds, Pattern.Compiles d.pattern := by
        simpa using PatternSet.exists_compile_iff.1 (reason?_eq_none_iff.1 hnone)
      obtain ⟨vs, hvs, -⟩ := settles_checkPlain a.changedFiles_eq a.treeFiles_eq hcompiles
      exact ⟨vs, hvs⟩
    have hselect : Hinges change _ (select change (ds.map (·.pattern))) :=
      hinges_select a (by simpa using hnil)
    unfold checkPlain at hgives ⊢
    rw [if_neg (by simpa using hnil)] at hgives ⊢
    exact hselect.of_first hgives

theorem hinges_checkNamed (d : Demand) (name : Text) :
    Hinges change (reason? (PatternSet.compile [d.pattern])) (checkNamed change disk d name) := by
  refine (hinges_select a (List.cons_ne_nil _ _)).of_first fun hnone => ?_
  have hcompiles : Pattern.Compiles d.pattern := by
    simpa using PatternSet.exists_compile_iff.1 (reason?_eq_none_iff.1 hnone)
  obtain ⟨vs, hvs, -⟩ := settles_checkNamed a disk hcompiles name
  exact ⟨vs, hvs⟩

theorem hinges_checkAllNamed (ds : List Demand) :
    Hinges change
      (reason? (PatternSet.compile ((ds.filter (·.name.isSome)).map (·.pattern))))
      (checkAllNamed change disk ds) := by
  induction ds with
  | nil => exact hinges_of_settles (settles_pure [])
  | cons d ds ih =>
    rw [checkAllNamed, List.filter_cons]
    cases hname : d.name with
    | none => exact ih
    | some name =>
      have hboth := (hinges_checkNamed a disk d name).bind fun vs => ih.map (vs ++ ·)
      rw [← PatternSet.reason?_compile_append] at hboth
      exact hboth

/-- The patterns of a block in the order in which they are compiled: those without a name together,
and then those with a name one by one. -/
def blockPatterns (file : Text) (b : Block) : List Text :=
  (b.obligations.filter (·.name.isNone) ++ b.obligations.filter (·.name.isSome)).map
    (rooted file ·.pattern)

theorem hinges_checkBlock (b : Block) :
    Hinges change (reason? (PatternSet.compile (blockPatterns file b)))
      (checkBlock change disk file b) := by
  set ds := b.obligations.map (Demand.ofObligation file) with hds
  have hpatterns : blockPatterns file b =
      (ds.filter (·.name.isNone)).map (·.pattern) ++
        (ds.filter (·.name.isSome)).map (·.pattern) := by
    rw [hds, List.filter_map, List.filter_map, List.map_map, List.map_map, ← List.map_append]
    rfl
  rw [hpatterns, PatternSet.reason?_compile_append]
  exact (hinges_checkPlain a (ds.filter (·.name.isNone))).bind fun vs =>
    (hinges_checkAllNamed a disk ds).map (vs ++ ·)

/-! ## Blocks and files -/

/-- The patterns of the blocks that the change touches. -/
def touchedPatterns (blocks : List Block) : List Text :=
  (blocks.filter (a.touches file ·.range)).flatMap (blockPatterns file)

/-- Blocks are checked one by one, up to the first that fails; errors behind all of them change
nothing about that. -/
theorem hinges_checkFindings (blocks : List Block) (broken : Option (List BlockError))
    (before : List Violation) :
    Hinges change (reason? (PatternSet.compile (touchedPatterns a file blocks)))
      (checkFindings change disk file before (blocks.map .block ++ broken.toList.map .broken)) := by
  induction blocks generalizing before with
  | nil =>
    cases broken with
    | none => exact hinges_of_settles (settles_pure before)
    | some errors =>
      exact hinges_of_settles (settles_pure (errors.map (Violation.malformed file)))
  | cons b blocks ih =>
    rw [List.map_cons, List.cons_append, checkFindings]
    refine Hinges.after (a.settles_touches file b.range) ?_
    cases htouches : a.touches file b.range with
    | true =>
      have hfirst : touchedPatterns a file (b :: blocks) =
          blockPatterns file b ++ touchedPatterns a file blocks := by
        simp [touchedPatterns, htouches]
      rw [if_pos rfl, hfirst, PatternSet.reason?_compile_append]
      exact (hinges_checkBlock a disk file b).bind fun vs => ih (before ++ vs)
    | false =>
      have hfirst : touchedPatterns a file (b :: blocks) = touchedPatterns a file blocks := by
        simp [touchedPatterns, htouches]
      rw [if_neg Bool.false_ne_true, hfirst]
      exact ih before

/-- The patterns of the blocks of a file that the change touches.  There are none in a file that
cannot be read. -/
def filePatterns : List Text :=
  match disk.read (Path.join a.root file) with
  | .ok text => touchedPatterns a file (foundBlocks (findings text))
  | .error _ => []

theorem hinges_checkFile :
    Hinges change (reason? (PatternSet.compile (filePatterns a disk file)))
      (checkFile change disk file) := by
  refine Hinges.after (a.settles_locate file) ?_
  unfold filePatterns
  cases disk.read (Path.join a.root file) with
  | error fault => exact hinges_of_settles (settles_pure [Violation.unreadable file fault])
  | ok text =>
    obtain ⟨blocks, broken, hshape⟩ := Scan.findings_shape (Scan.start text)
    have hblocks : foundBlocks (findings text) = blocks := by
      rw [findings, hshape]
      simp [foundBlocks]
    have hfile := hinges_checkFindings a disk file blocks broken []
    rw [← hshape, ← hblocks] at hfile
    exact hfile

/-- Over a source that answers, the check of a file gives its violations exactly if every pattern of
a block that the change touches compiles, whatever stands in this file and in all others.  Otherwise
it fails as these patterns do, the first that does not compile being too long or badly written. -/
theorem checkFile_outcome_iff {s : SessionState} (hs : s.memo.Faithful change.source) :
    let outcome := (checkFile change disk file s).outcome
    let patterns := filePatterns a disk file
    ((∃ vs, outcome = .ok vs) ↔ ∀ t ∈ patterns, Pattern.Compiles t) ∧
      (∀ stop, outcome = .error stop ↔
        ∃ why, PatternSet.compile patterns = .error why ∧ stop = .failed why) ∧
      ∀ why, PatternSet.compile patterns = .error why →
        why = .patternTooLong ∨ ∃ e, why = .badPattern e := by
  intro outcome patterns
  obtain ⟨x, hx, hreason⟩ := hinges_checkFile a disk file
  have houtcome : outcome = x.mapError .failed := (hx s hs).1
  have hbad : ∀ why, PatternSet.compile patterns = .error why →
      why = .patternTooLong ∨ ∃ e, why = .badPattern e := by
    intro why hwhy
    obtain ⟨t, -, ht⟩ := PatternSet.compile_eq_error hwhy
    exact Pattern.compile_eq_error ht
  rw [← PatternSet.exists_compile_iff, houtcome]
  refine ⟨?_, ?_, hbad⟩
  · rw [← reason?_eq_none_iff (x := PatternSet.compile patterns), ← hreason]
    cases x <;> simp [reason?, Except.mapError]
  · intro stop
    have hfails : ∀ why, PatternSet.compile patterns = .error why ↔ x = .error why := by
      intro why
      rw [← reason?_eq_some_iff, ← reason?_eq_some_iff, hreason]
    simp only [hfails]
    cases x <;> simp [Except.mapError, eq_comm]

/-! ## The longest pattern -/

omit a

/-- A change that adds one file. -/
def soleChange : Change where
  source :=
    { root := some "/repo".toList
      exemptPatterns := []
      changedFiles := pure [⟨['f'], .added⟩]
      filePatch := fun _ => pure none
      treeFiles := pure [['f']] }
  exempt := []

/-- What its source answers. -/
def soleAnswers : Answering soleChange.source where
  root := "/repo".toList
  listed := [⟨['f'], .added⟩]
  patch := fun _ => none
  tree := [['f']]
  root_eq := rfl
  changedFiles_eq := rfl
  filePatch_eq := fun _ => rfl
  treeFiles_eq := rfl

/-- Two slashes and a blank. -/
def slashes : Leader :=
  ⟨[], ['/', '/'], [' '], by simp, by simp [Marker.leaders], List.forall_mem_singleton.2 rfl,
    Text.feed_not_mem_nil, by simp⟩

/-- A file with one block, which needs a change of the file whose name is `n` letters. -/
def longLayout (n : Nat) : Layout :=
  .block slashes none .done slashes
    [.file ('/' :: List.replicate n 'a') (List.cons_ne_nil _ _) (by simp [List.mem_replicate])
      (by simp [List.mem_replicate])] .done

/-- The file on its disk. -/
def longDisk (n : Nat) : FileTree := .ofFiles "/repo".toList [(['f'], .file (longLayout n).render)]

theorem findings_longLayout (n : Nat) : findings (longLayout n).render =
    [.block ⟨none, ⟨1, 2⟩, [⟨'/' :: List.replicate n 'a', none, 2⟩]⟩] := by
  have hlayout := Scan.findings_layout (longLayout n) 0 [] []
  rw [List.append_nil] at hlayout
  rw [findings, Scan.start, Layout.render, Text.fileLines_unlines fun l => Layout.feed_not_mem,
    hlayout]
  exact List.append_nil _

/-- As many letters as one likes. -/
def letters (n : Nat) : FileName :=
  ⟨List.replicate (n + 1) 'a', by simp [List.replicate_succ], by simp [List.mem_replicate],
    by simp [List.replicate_succ], by simp [List.replicate_succ]⟩

theorem unitLength_letters (n : Nat) : Text.unitLength (List.replicate n 'a') = n := by
  induction n with
  | zero => rfl
  | succ n ih =>
    rw [List.replicate_succ, Text.unitLength, ih, if_pos (by decide), Nat.add_comm]

/-- Letters are a pattern unless there are too many. -/
theorem reason?_compile_letters (n : Nat) :
    reason? (Pattern.compile (List.replicate n 'a')) =
      if n + 3 ≤ 65536 then none else some .patternTooLong := by
  cases n with
  | zero => rfl
  | succ n =>
    have hbody := Pattern.body_ofNames (List.cons_ne_nil (letters n) [])
    have hplain : Glob.isPlain (List.replicate (n + 1) 'a') = true :=
      Glob.isPlain_of_all (by rw [List.all_replicate, if_neg (Nat.succ_ne_zero n)]; decide)
    have hcompile := Pattern.compile_of_body (List.cons_ne_nil (letters n) []) hbody hplain rfl
    rw [Path.ofNames_singleton, letters, unitLength_letters] at hcompile
    rw [hcompile]
    show reason? (if n + 1 + 3 ≤ 65536 then _ else _) = _
    split <;> rfl

theorem filePatterns_longDisk (n : Nat) :
    filePatterns soleAnswers (longDisk n) ['f'] = [List.replicate n 'a'] := by
  have hread : (longDisk n).read (Path.join soleAnswers.root ['f']) = .ok (longLayout n).render :=
    rfl
  have hrooted : rooted ['f'] ('/' :: List.replicate n 'a') = List.replicate n 'a' := by
    cases n <;> rfl
  rw [filePatterns, hread]
  dsimp only
  rw [findings_longLayout]
  exact congrArg (fun t => [t]) hrooted

theorem reason?_compile_longDisk (n : Nat) :
    reason? (PatternSet.compile (filePatterns soleAnswers (longDisk n) ['f'])) =
      if n + 3 ≤ 65536 then none else some .patternTooLong := by
  rw [filePatterns_longDisk, PatternSet.reason?_compile_singleton, reason?_compile_letters]

/-- The longest name that is short enough. -/
theorem checkFile_outcome_iff_longest :
    Memo.Faithful soleChange.source {} ∧
      (∀ t ∈ filePatterns soleAnswers (longDisk 65533) ['f'], Pattern.Compiles t) ∧
      ∃ vs, (checkFile soleChange (longDisk 65533) ['f'] {}).outcome = .ok vs := by
  have hs := Memo.faithful_empty soleChange.source
  have hnone := (reason?_compile_longDisk 65533).trans (if_pos (Nat.le_refl _))
  have hcompiles := PatternSet.exists_compile_iff.1 (reason?_eq_none_iff.1 hnone)
  exact ⟨hs, hcompiles,
    (checkFile_outcome_iff soleAnswers (longDisk 65533) ['f'] (s := {}) hs).1.2 hcompiles⟩

/-- With one letter more, what stands in the file makes the check fail. -/
theorem checkFile_fails_of_letters :
    (checkFile soleChange (longDisk 65534) ['f'] {}).outcome =
      .error (.failed .patternTooLong) := by
  obtain ⟨x, hx, hreason⟩ := hinges_checkFile soleAnswers (longDisk 65534) ['f']
  rw [reason?_compile_longDisk, if_neg (by decide), reason?_eq_some_iff] at hreason
  rw [(hx {} (Memo.faithful_empty _)).1, hreason]
  rfl

end Check

end Lockstep
