import Lockstep.Check.Change
import Lockstep.Proofs.Inquiry
import Lockstep.Proofs.Verdict

/-!
# The check of a whole change

A check goes through the changed paths in one session, which remembers more and more
while it runs.  This file shows that the violations it reports are those of the single
files, each checked in a session of its own, one behind the other
(`reported_checkChange`).  Patterns and exemptions decide which files are looked into
and change nothing else.

* `Check.alike_checkFile`: the check of a file only inquires, and does not ask about
  exemptions.
* `Session.Reports`: what a session reports that runs to its end; reports of sessions
  one after the other add up (`Session.Reports.bind`).
* `Check.reports_visit`, `Check.reports_visitAll`: what is reported at one path and
  along all of them.
-/

namespace Lockstep

/-! ## The check of a file only inquires -/

namespace Check

open Session

variable {change change' : Change} (disk : FileTree)

theorem alike_unmet (d : Demand) : Alike change change' (unmet change d) (unmet change' d) :=
  .bind (alike_treePaths _) fun _ => .pure _

theorem alike_unmetAll (ds : List Demand) :
    Alike change change' (unmetAll change ds) (unmetAll change' ds) := by
  induction ds with
  | nil => exact .pure _
  | cons d ds ih => exact .bind (alike_unmet d) fun _ => .bind ih fun _ => .pure _

theorem alike_checkPlain (ds : List Demand) :
    Alike change change' (checkPlain change ds) (checkPlain change' ds) := by
  unfold checkPlain
  split
  · exact .pure _
  · exact .bind (alike_select _) fun _ => alike_unmetAll _

section Located

variable (hroot : change.source.root = change'.source.root)

include hroot

theorem alike_checkTarget (d : Demand) (name target : Text) :
    Alike change change' (checkTarget change disk d name target)
      (checkTarget change' disk d name target) := by
  refine .bind (alike_locate hroot target) fun place => ?_
  cases disk.read place with
  | error fault => exact .pure _
  | ok text =>
    dsimp only
    cases lookup name (findings text) with
    | found b => exact .bind (alike_touches target b.range) fun _ => .pure _
    | broken errors => exact .pure _
    | absent => exact .pure _

theorem alike_checkTargets (d : Demand) (name : Text) (targets : List Text) :
    Alike change change' (checkTargets change disk d name targets)
      (checkTargets change' disk d name targets) := by
  induction targets with
  | nil => exact .pure _
  | cons target targets ih =>
    exact .bind (alike_checkTarget disk hroot d name target) fun _ => .bind ih fun _ => .pure _

theorem alike_checkNamed (d : Demand) (name : Text) :
    Alike change change' (checkNamed change disk d name) (checkNamed change' disk d name) := by
  refine .bind (alike_select _) fun found => ?_
  dsimp only
  split
  · exact alike_checkTargets disk hroot d name _
  · split
    · exact .pure _
    · exact .bind (alike_unmet d) fun _ => .pure _

theorem alike_checkAllNamed (ds : List Demand) :
    Alike change change' (checkAllNamed change disk ds) (checkAllNamed change' disk ds) := by
  induction ds with
  | nil => exact .pure _
  | cons d ds ih =>
    unfold checkAllNamed
    cases d.name with
    | none => exact ih
    | some name =>
      exact .bind (alike_checkNamed disk hroot d name) fun _ => .bind ih fun _ => .pure _

theorem alike_checkBlock (file : Text) (b : Block) :
    Alike change change' (checkBlock change disk file b) (checkBlock change' disk file b) :=
  .bind (alike_checkPlain _) fun _ => .bind (alike_checkAllNamed disk hroot _) fun _ => .pure _

theorem alike_checkFindings (file : Text) (before : List Violation) (fs : List Finding) :
    Alike change change' (checkFindings change disk file before fs)
      (checkFindings change' disk file before fs) := by
  induction fs generalizing before with
  | nil => exact .pure _
  | cons f fs ih =>
    cases f with
    | broken errors => exact .pure _
    | block b =>
      refine .bind (alike_touches file b.range) fun touched => ?_
      cases touched with
      | true => exact .bind (alike_checkBlock disk hroot file b) fun vs => ih (before ++ vs)
      | false => exact ih before

theorem alike_checkFile (file : Text) :
    Alike change change' (checkFile change disk file) (checkFile change' disk file) := by
  refine .bind (alike_locate hroot file) fun place => ?_
  cases disk.read place with
  | error fault => exact .pure _
  | ok text => exact alike_checkFindings disk hroot file [] _

end Located

/-- The check of a file comes to an end, whether the file can be read or not. -/
theorem settles_checkFile (a : Answering change.source) {file : Text}
    (hcompiles : ∀ text, disk.read (Path.join a.root file) = .ok text →
      ∀ b, Finding.block b ∈ findings text →
      ∀ o ∈ b.obligations, Pattern.Compiles (rooted file o.pattern)) :
    ∃ vs, Settles change (checkFile change disk file) (.ok vs) := by
  cases hread : disk.read (Path.join a.root file) with
  | error fault =>
    refine ⟨[.unreadable file fault], (a.settles_locate file).andThen ?_⟩
    rw [hread]
    exact settles_pure _
  | ok text =>
    obtain ⟨vs, hvs, -⟩ := settles_checkFindings a disk file (hcompiles text hread)
      (fun _ => findings_broken_ne_nil) []
    refine ⟨vs, (a.settles_locate file).andThen ?_⟩
    rw [hread]
    exact hvs

end Check

/-! ## What sessions report -/

namespace Session

/-- A session that, from a faithful memory and with nobody who stops it, ends with the value `a` and
has reported the violations `vs` by then. -/
def Reports (change : Change) (m : Session α) (a : α) (vs : List Violation) : Prop :=
  ∀ s : SessionState, s.memo.Faithful change.source → s.allowance = none →
    (m s).outcome = .ok a ∧ (m s).state.memo.Faithful change.source ∧ (m s).state.allowance = none ∧
      reported (m s).log = vs

variable {change : Change} {α β : Type} {m : Session α}

/-- Reports add up. -/
theorem Reports.bind {f : α → Session β} {a : α} {b : β} {vs ws : List Violation}
    (hm : Reports change m a vs) (hf : Reports change (f a) b ws) :
    Reports change (m >>= f) b (vs ++ ws) := by
  intro s hs hnone
  obtain ⟨hout, hmemo, hallow, hlog⟩ := hm s hs hnone
  obtain ⟨hout', hmemo', hallow', hlog'⟩ := hf (m s).state hmemo hallow
  rw [Run.bind_of_ok hout]
  exact ⟨hout', hmemo', hallow', by rw [reported_append, hlog, hlog']⟩

/-- A session that only inquires is heard of no more. -/
theorem Alike.reports_bind (h : Alike change change m m) {a : α} (hm : Settles change m (.ok a))
    {f : α → Session β} {b : β} {vs : List Violation} (hf : Reports change (f a) b vs) :
    Reports change (m >>= f) b vs := by
  have hquiet : Reports change m a [] := by
    intro s hs hnone
    obtain ⟨hout, hmemo, hallow⟩ := hm s hs
    exact ⟨hout, hmemo, hallow.trans hnone, h.reported s⟩
  exact hquiet.bind hf

theorem reports_pure (a : α) : Reports change (pure a) a [] :=
  fun _ hs hnone => ⟨rfl, hs, hnone, rfl⟩

theorem reports_progress (verbose : Bool) (line : String) :
    Reports change (progress verbose line) () [] := by
  intro s hs hnone
  cases verbose with
  | true => exact ⟨rfl, hs, hnone, rfl⟩
  | false => exact ⟨rfl, hs, hnone, rfl⟩

theorem reports_report (v : Violation) : Reports change (report v) () [v] := by
  intro s hs hnone
  rw [report, Run.bind_of_ok (a := ()) rfl, Run.bind_of_ok (a := s) rfl]
  simp only [Run.note, Run.get, hnone]
  exact ⟨rfl, hs, hnone, rfl⟩

theorem reports_reportAll (vs : List Violation) : Reports change (reportAll vs) () vs := by
  induction vs with
  | nil => exact reports_pure ()
  | cons v vs ih => exact (reports_report v).bind ih

end Session

/-- What a source answers does not depend on what it exempts. -/
def Answering.exempting {source : ChangeSource} (a : Answering source) (exempt : List Text) :
    Answering { source with exemptPatterns := exempt } :=
  ⟨a.root, a.listed, a.patch, a.tree, a.root_eq, a.changedFiles_eq, a.filePatch_eq, a.treeFiles_eq⟩

/-! ## Paths one after the other -/

namespace Check

open Session

/-- A path that patterns ask for.  No patterns ask for all of them. -/
def AskedFor (patterns : List Text) (file : Text) : Prop :=
  patterns = [] ∨ PatternSet.Includes patterns file

instance (patterns : List Text) (file : Text) : Decidable (AskedFor patterns file) :=
  inferInstanceAs (Decidable (_ ∨ _))

/-- A path whose file is looked into: it is not exempt, not deleted, and no directory. -/
def LookedInto {source : ChangeSource} (a : Answering source) (disk : FileTree) (exempt : List Text)
    (file : Text) : Prop :=
  ¬ PatternSet.Includes exempt file ∧ listedStatus a.listed file ≠ some .deleted ∧
    disk.isDirectory (Path.join a.root file) ≠ .ok true

instance {source : ChangeSource} (a : Answering source) (disk : FileTree) (exempt : List Text)
    (file : Text) : Decidable (LookedInto a disk exempt file) :=
  inferInstanceAs (Decidable (_ ∧ _ ∧ _))

section Visits

variable {change : Change} (a : Answering change.source) {disk : FileTree} {exempt : List Text}
  (hexempt : PatternSet.compile exempt = .ok change.exempt) (verbose : Bool)

include hexempt in
/-- At a path that is looked into the violations of its file are reported, and nothing at others. -/
theorem reports_visit {file : Text} {vs : List Violation}
    (hstat : ∀ fault, disk.isDirectory (Path.join a.root file) ≠ .error fault)
    (hfile : Settles change (checkFile change disk file) (.ok vs)) :
    Reports change (visit change disk verbose file) ()
      (if LookedInto a disk exempt file then vs else []) := by
  have hexemptIff : change.isExempt file = true ↔ PatternSet.Includes exempt file :=
    (PatternSet.includes_iff hexempt).symm
  unfold visit
  by_cases hex : PatternSet.Includes exempt file
  · rw [if_pos (hexemptIff.2 hex), if_neg fun h => h.1 hex]
    exact reports_progress verbose _
  rw [if_neg (mt hexemptIff.1 hex)]
  have hdeleted : Settles change (isDeleted change file)
      (.ok (listedStatus a.listed file = some .deleted)) :=
    (settles_status? a.changedFiles_eq file).andThen (settles_pure _)
  refine (alike_isDeleted file).reports_bind hdeleted ?_
  by_cases hdel : listedStatus a.listed file = some .deleted
  · rw [if_pos (by simpa using hdel), if_neg fun h => h.2.1 hdel]
    exact reports_progress verbose _
  rw [if_neg (by simpa using hdel)]
  unfold visitPresent
  refine (alike_locate rfl file).reports_bind (a.settles_locate file) ?_
  cases hdir : disk.isDirectory (Path.join a.root file) with
  | error fault => exact absurd hdir (hstat fault)
  | ok isDirectory =>
    refine (Alike.ofExcept _).reports_bind (settles_ofExcept _) ?_
    cases isDirectory with
    | true =>
      rw [if_pos rfl, if_neg fun h => h.2.2 hdir]
      exact reports_progress verbose _
    | false =>
      have hlooked : LookedInto a disk exempt file := ⟨hex, hdel, by rw [hdir]; nofun⟩
      rw [if_neg Bool.false_ne_true, if_pos hlooked]
      exact (reports_progress verbose _).bind
        ((alike_checkFile disk rfl file).reports_bind hfile (reports_reportAll vs))

include hexempt in
/-- Along what patterns select, the violations of the files that are looked into are reported, one
file after the other. -/
theorem reports_visitAll {found : List Selection} {violations : Text → List Violation}
    (hstat : ∀ file ∈ selectedPaths found, ∀ fault,
      disk.isDirectory (Path.join a.root file) ≠ .error fault)
    (hfile : ∀ file ∈ selectedPaths found,
      Settles change (checkFile change disk file) (.ok (violations file))) :
    Reports change (visitAll change disk verbose found) ()
      (((selectedPaths found).filter fun file => LookedInto a disk exempt file).flatMap
        violations) := by
  induction found with
  | nil => exact reports_pure ()
  | cons selection found ih =>
    cases selection with
    | unused pattern => exact (reports_progress verbose _).bind (ih hstat hfile)
    | path file =>
      have hcons : selectedPaths (.path file :: found) = file :: selectedPaths found := rfl
      rw [hcons] at hstat hfile ⊢
      have hvisit := reports_visit a hexempt verbose (hstat file List.mem_cons_self)
        (hfile file List.mem_cons_self)
      have hrest := ih (fun f hf => hstat f (List.mem_cons_of_mem _ hf))
        (fun f hf => hfile f (List.mem_cons_of_mem _ hf))
      have hall := hvisit.bind (f := fun _ => visitAll change disk verbose found) hrest
      rw [List.filter_cons]
      by_cases hlooked : LookedInto a disk exempt file
      · rw [if_pos hlooked] at hall
        rw [if_pos (decide_eq_true hlooked), List.flatMap_cons]
        exact hall
      · rw [if_neg hlooked] at hall
        rw [if_neg (by simpa using hlooked)]
        exact hall

/-- A selection settles on the changed paths that are asked for, and some patterns maybe. -/
theorem exists_settles_select {patterns : List Text}
    (hcompiles : ∀ t ∈ patterns, Pattern.Compiles t) :
    ∃ found, Settles change (select change patterns) (.ok found) ∧
      selectedPaths found = a.paths.filter fun file => AskedFor patterns file := by
  by_cases hnil : patterns = []
  · refine ⟨a.paths.map .path, a.settles_changedFiles.andThen ?_, ?_⟩
    · rw [hnil]
      exact settles_pure _
    · simp [selectedPaths, AskedFor, hnil, List.filterMap_map]
  · obtain ⟨set, hset⟩ := PatternSet.exists_compile hcompiles
    refine ⟨selections set a.paths, a.settles_select hnil hset, ?_⟩
    rw [selectedPaths_selections]
    refine List.filter_congr fun file _ => ?_
    rw [Bool.eq_iff_iff, decide_eq_true_eq, AskedFor, PatternSet.includes_iff hset]
    simp [hnil]

include hexempt in
/-- A whole check reports the violations of the files that are asked for and looked into. -/
theorem reports_checkChange {violations : Text → List Violation}
    (hstat : ∀ file ∈ a.listed.map (·.path), ∀ fault,
      disk.isDirectory (Path.join a.root file) ≠ .error fault)
    (hfile : ∀ file ∈ a.listed.map (·.path),
      Settles change (checkFile change disk file) (.ok (violations file)))
    {patterns : List Text} (hpatterns : ∀ t ∈ patterns, Pattern.Compiles t) :
    Reports change (checkChange change disk verbose patterns) ()
      ((((a.listed.map (·.path)).eraseDups.filter fun file => LookedInto a disk exempt file).filter
        fun file => AskedFor patterns file).flatMap violations) := by
  obtain ⟨found, hfound, hselected⟩ := exists_settles_select a hpatterns
  have hmem : ∀ file ∈ selectedPaths found, file ∈ a.listed.map (·.path) := by
    intro file hmem
    rw [hselected, List.mem_filter, mem_paths_iff] at hmem
    exact hmem.1
  have hvisits := reports_visitAll a hexempt verbose (fun file h => hstat file (hmem file h))
    (fun file h => hfile file (hmem file h))
  have hpaths : a.paths = (a.listed.map (·.path)).eraseDups := map_lastBy _
  have horder : (selectedPaths found).filter (fun file => LookedInto a disk exempt file) =
      ((a.listed.map (·.path)).eraseDups.filter fun file => LookedInto a disk exempt file).filter
        fun file => AskedFor patterns file := by
    rw [hselected, hpaths, List.filter_filter, List.filter_filter]
    exact List.filter_congr fun file _ => Bool.and_comm _ _
  rw [← horder]
  exact (alike_select patterns).reports_bind hfound hvisits

end Visits

/-! ## The whole check -/

/-- The check of a file finds the same over sources that give the same answers. -/
theorem settles_checkFile_of_agrees (disk : FileTree) {change change' : Change}
    (hagree : change.source.Agrees change'.source) {file : Text} {vs : List Violation}
    (h : Settles change (checkFile change disk file) (.ok vs)) :
    Settles change' (checkFile change' disk file) (.ok vs) := by
  obtain ⟨x, hx, hx'⟩ := (alike_checkFile disk hagree.root file).settles hagree
  obtain rfl : x = .ok vs := hx.unique h
  exact hx'

/-- A check of a change runs to its end and reports the violations of the files it looks into, each
as found in a session of its own, in the order in which the paths come up first.  Which files these
are depends on the patterns, the exemptions, what is deleted and what is a directory; the violations
of a file depend on none of the others. -/
theorem reported_checkChange {source : ChangeSource} (a : Answering source) (disk : FileTree)
    (hstat : ∀ file ∈ a.listed.map (·.path), ∀ fault,
      disk.isDirectory (Path.join a.root file) ≠ .error fault)
    (hcompiles : ∀ file ∈ a.listed.map (·.path), ∀ text,
      disk.read (Path.join a.root file) = .ok text →
      ∀ b, Finding.block b ∈ findings text →
        ∀ o ∈ b.obligations, Pattern.Compiles (rooted file o.pattern)) :
    ∃ violations : Text → List Violation, ∀ exempt : List Text, (∀ t ∈ exempt, Pattern.Compiles t) →
      ∃ change, Change.ofSource { source with exemptPatterns := exempt } = .ok change ∧
        (∀ file ∈ a.listed.map (·.path),
          (checkFile change disk file {}).outcome = .ok (violations file)) ∧
        ∀ (verbose : Bool) (patterns : List Text), (∀ t ∈ patterns, Pattern.Compiles t) →
          let lookedInto :=
            (a.listed.map (·.path)).eraseDups.filter fun file => LookedInto a disk exempt file
          let run := Session.runUpTo none (checkChange change disk verbose patterns)
          run.outcome = .ok () ∧
            reported run.log =
              (lookedInto.filter fun file => AskedFor patterns file).flatMap violations := by
  -- the violations of a file are those found where nothing is exempt
  let plain : Change := ⟨source, []⟩
  have hplain : ∀ file ∈ a.listed.map (·.path), ∃ vs,
      Settles plain (checkFile plain disk file) (.ok vs) :=
    fun file hmem => settles_checkFile disk (a : Answering plain.source) (hcompiles file hmem)
  choose! violations hviolations using hplain
  refine ⟨violations, fun exempt hexemptFit => ?_⟩
  obtain ⟨set, hset⟩ := PatternSet.exists_compile hexemptFit
  let change : Change := ⟨{ source with exemptPatterns := exempt }, set⟩
  have hagree : plain.source.Agrees change.source := ⟨rfl, rfl, rfl, fun _ => rfl⟩
  have hfile : ∀ file ∈ a.listed.map (·.path),
      Settles change (checkFile change disk file) (.ok (violations file)) :=
    fun file hmem => settles_checkFile_of_agrees disk hagree (hviolations file hmem)
  refine ⟨change, by rw [Change.ofSource, hset]; rfl,
    fun file hmem => (hfile file hmem).outcome (Memo.faithful_empty _), ?_⟩
  intro verbose patterns hpatterns lookedInto run
  let answers : Answering change.source := a.exempting exempt
  obtain ⟨hout, -, -, hlog⟩ := reports_checkChange answers hset verbose hstat hfile hpatterns
    {} (Memo.faithful_empty _) rfl
  exact ⟨hout, hlog⟩

/-- A change to three files with the same text, of which one is listed twice, to a directory, and to
a file that it deletes. -/
def siblingSource : ChangeSource where
  root := some "/repo".toList
  exemptPatterns := []
  changedFiles := pure [⟨['b'], .modified⟩, ⟨['d'], .modified⟩, ⟨['a'], .added⟩, ⟨['b'], .added⟩,
    ⟨['e'], .deleted⟩, ⟨['c'], .added⟩]
  filePatch := fun _ => pure none
  treeFiles := pure [['a'], ['b'], ['c'], ['x']]

/-- What the source of the siblings answers. -/
def siblingAnswers : Answering siblingSource where
  root := "/repo".toList
  listed := [⟨['b'], .modified⟩, ⟨['d'], .modified⟩, ⟨['a'], .added⟩, ⟨['b'], .added⟩,
    ⟨['e'], .deleted⟩, ⟨['c'], .added⟩]
  patch := fun _ => none
  tree := [['a'], ['b'], ['c'], ['x']]
  root_eq := rfl
  changedFiles_eq := rfl
  filePatch_eq := fun _ => rfl
  treeFiles_eq := rfl

/-- The text of the siblings, which needs a change of another file. -/
def siblingText : Text := "# if-changed\n# then-change(x)\n".toList

/-- The siblings and the directory. -/
def siblingDisk : FileTree :=
  .ofFiles "/repo".toList
    [(['a'], .file siblingText), (['b'], .file siblingText), (['c'], .file siblingText),
      (['d'], .directory)]

/-- One sibling is exempt and another is not asked for. -/
theorem reported_checkChange_siblings :
    (∀ file ∈ siblingAnswers.listed.map (·.path), ∀ fault,
      siblingDisk.isDirectory (Path.join siblingAnswers.root file) ≠ .error fault) ∧
    ∃ change, Change.ofSource { siblingSource with exemptPatterns := [['c']] } = .ok change ∧
      reported (Session.runUpTo none (checkChange change siblingDisk true [])).log =
        [.untouched ['x'] ⟨['b'], 2⟩, .untouched ['x'] ⟨['a'], 2⟩] ∧
      reported (Session.runUpTo none
        (checkChange change siblingDisk true [['*'], "!b".toList])).log =
        [.untouched ['x'] ⟨['a'], 2⟩] := by
  have hstat : ∀ file ∈ siblingAnswers.listed.map (·.path), ∀ fault,
      siblingDisk.isDirectory (Path.join siblingAnswers.root file) ≠ .error fault := by
    have hok : ∀ file ∈ siblingAnswers.listed.map (·.path),
        (siblingDisk.isDirectory (Path.join siblingAnswers.root file)).isOk = true := by decide
    intro file hfile fault h
    have := hok file hfile
    rw [h] at this
    cases this
  have hcompiles : ∀ file ∈ siblingAnswers.listed.map (·.path), ∀ text,
      siblingDisk.read (Path.join siblingAnswers.root file) = .ok text →
      ∀ b, Finding.block b ∈ findings text →
        ∀ o ∈ b.obligations, Pattern.Compiles (rooted file o.pattern) := by
    have hread : ∀ file ∈ siblingAnswers.listed.map (·.path),
        (siblingDisk.read (Path.join siblingAnswers.root file)).toOption = none ∨
          (siblingDisk.read (Path.join siblingAnswers.root file)).toOption = some siblingText := by
            decide
    have hfindings : findings siblingText = [.block ⟨none, ⟨1, 2⟩, [⟨['x'], none, 2⟩]⟩] := by decide
    have hall : ∀ file ∈ siblingAnswers.listed.map (·.path),
        Pattern.Compiles (rooted file ['x']) := by
      decide +kernel
    intro file hfile text htext b hb o ho
    have htextEq : text = siblingText := by
      rcases hread file hfile with h | h <;> rw [htext] at h <;> cases h
      rfl
    rw [htextEq, hfindings, List.mem_singleton, Finding.block.injEq] at hb
    rw [hb, List.mem_singleton] at ho
    rw [ho]
    exact hall file hfile
  obtain ⟨violations, hall⟩ := reported_checkChange siblingAnswers siblingDisk hstat hcompiles
  obtain ⟨change, hchange, hfiles, hrun⟩ := hall [['c']] (by decide +kernel)
  obtain rfl := Except.ok.inj hchange
  have hb : violations ['b'] = [.untouched ['x'] ⟨['b'], 2⟩] := by
    refine Except.ok.inj ((hfiles ['b'] (by decide)).symm.trans ?_)
    decide +kernel
  have ha : violations ['a'] = [.untouched ['x'] ⟨['a'], 2⟩] := by
    refine Except.ok.inj ((hfiles ['a'] (by decide)).symm.trans ?_)
    decide +kernel
  have hlooked : ((siblingAnswers.listed.map (·.path)).eraseDups.filter fun file =>
      LookedInto siblingAnswers siblingDisk [['c']] file) = [['b'], ['a']] := by decide +kernel
  have hasked : ([['b'], ['a']].filter fun file => AskedFor [['*'], "!b".toList] file) =
      [['a']] := by
    decide +kernel
  refine ⟨hstat, _, hchange, ?_, ?_⟩
  · rw [(hrun true [] (by simp)).2, hlooked]
    simp [AskedFor, ha, hb]
  · rw [(hrun true [['*'], "!b".toList] (by decide +kernel)).2, hlooked, hasked]
    simp [ha]

end Check

end Lockstep
