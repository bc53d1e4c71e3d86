import Lockstep.Git.Script
import Lockstep.Proofs.Diff.RoundTrip
import Lockstep.Proofs.Inquiry
import Lockstep.Proofs.Listing

/-!
# Two sources of one change

A change can be known from one diff of all its files, or from a repository that is
asked for a listing and for the diff of one path at a time.  The first takes the
statuses from the headers of the diff and the second from the letters of the listing;
the first finds a patch by the name that is read and the second names it after the
path that was asked for; and each of them sorts for itself.

* `Git.Shows`: the host prints a change between the trees of a repository.
* `Git.shows_script`: for every change and every repository there is a script that does.
* `Git.Repository.outcome_changedFiles`, `Git.Repository.outcome_filePatch`: what the
  repository then answers.
* `ChangeSource.outcome_changedFiles_ofDiff`, `ChangeSource.outcome_filePatch_ofDiff`:
  what the diff of all files answers.
* `Query.outcome_put_eq`: selections, touched ranges and deletions depend on these
  answers only.
* `ofDiff_agrees_repository`: so nobody can tell the two sources apart by them.
-/

namespace Lockstep

/-- A file of a diff as a changed file. -/
def FileText.changed (f : FileText) : ChangedFile := ⟨f.path.text, f.status⟩

/-- The changed files of a diff, sorted. -/
def listingOf (files : List FileText) : List ChangedFile :=
  Text.sortBy (·.path) (files.map FileText.changed)

/-- The patch of a path, if it is one of the files. -/
def patchOf? (files : List FileText) (path : Text) : Option FilePatch :=
  (files.find? (·.path.text = path)).map FileText.patch

/-- The order that the files come in does not matter. -/
theorem listingOf_eq_of_perm {files files' : List FileText} (h : files.Perm files')
    (hpaths : (files.map (·.path.text)).Nodup) : listingOf files = listingOf files' := by
  have hkeys : ((files.map FileText.changed).map (·.path)).Nodup := by
    rw [List.map_map]
    exact hpaths
  exact Text.sortBy_eq_of_perm (h.map _) hkeys

theorem find?_path_of_not_mem {files : List FileText} {path : Text}
    (h : path ∉ files.map (·.path.text)) : files.find? (·.path.text = path) = none := by
  rw [List.find?_eq_none]
  intro f hf hpath
  exact h (List.mem_map.2 ⟨f, hf, of_decide_eq_true hpath⟩)

theorem find?_path_of_mem {files : List FileText} (hpaths : (files.map (·.path.text)).Nodup)
    {f : FileText} (hf : f ∈ files) : files.find? (·.path.text = f.path.text) = some f := by
  induction files with
  | nil => cases hf
  | cons g files ih =>
    rw [List.map_cons, List.nodup_cons] at hpaths
    cases hf with
    | head => simp
    | tail _ hf =>
      have hne : g.path.text ≠ f.path.text := by
        intro heq
        exact hpaths.1 (List.mem_map.2 ⟨f, hf, heq.symm⟩)
      rw [List.find?_cons_of_neg (by simpa using hne)]
      exact ih hpaths.2 hf

/-! ## The diff of all files -/

namespace ChangeSource

variable {files : List FileText} (root : Option Text) (tree : Option (List Text))
  (exemptPatterns : List Text)

theorem outcome_changedFiles_ofDiff (hpaths : (files.map (·.path.text)).Nodup) :
    ((ofDiff root (renderFiles files) tree [] exemptPatterns).changedFiles ()).outcome =
      .ok (listingOf files) := by
  show Except.ok (Text.sortBy (·.path)
    ((readPatches (renderFiles files)).map (fun p => ChangedFile.mk p.path p.status) ++
      untracked [])) = _
  rw [readPatches_renderFiles hpaths, List.map_map, untracked, List.map_nil, List.append_nil]
  rfl

theorem outcome_filePatch_ofDiff (hpaths : (files.map (·.path.text)).Nodup) (path : Text) :
    ((ofDiff root (renderFiles files) tree [] exemptPatterns).filePatch path ()).outcome =
      .ok (patchOf? files path) := by
  show Except.ok ((readPatches (renderFiles files)).find? (·.path = path)) = _
  rw [readPatches_renderFiles hpaths, List.find?_map]
  rfl

end ChangeSource

namespace Git

/-! ## Commands that end well -/

/-- The host ends a command well, with this output. -/
def Prints (host : Host) (c : Command) (stdout : Text) : Prop :=
  ∃ stderr trouble, host c = .ended (some 0) stdout stderr trouble

theorem outcome_succeed {host : Host} {c : Command} {stdout : Text} (hinput : c.input = none)
    (h : Prints host c stdout) : (succeed host c ()).outcome = .ok stdout := by
  obtain ⟨stderr, trouble, hreply⟩ := h
  have hjudge : (host c).judge c = .ok ⟨0, stdout, stderr⟩ := by
    unfold Reply.judge
    simp only [hreply, hinput]
    rfl
  have hrun : (run host c ()).outcome = .ok ⟨0, stdout, stderr⟩ := by
    unfold run
    rw [hjudge]
    rfl
  exact Run.outcome_bind_of_ok hrun

/-- A listing comes back as it was. -/
theorem Repository.outcome_list {host : Host} {r : Repository} {arguments fields : List Text}
    (hnul : ∀ t ∈ fields, '\x00' ∉ t)
    (h : Prints host ⟨arguments, r.directory, none⟩ (Text.terminated fields)) :
    (r.list host arguments ()).outcome = .ok fields := by
  refine (Run.outcome_bind_of_ok (outcome_succeed rfl h)).trans ?_
  rw [Text.splitNul_terminated hnul]
  rfl

/-! ## What a repository is asked -/

namespace Repository

variable (r : Repository)

/-- Asks for the changed paths and their statuses. -/
def statusCommand : Command where
  arguments :=
    words ["diff"] ++ diffOptions ++ words ["--name-status", "-z"] ++ r.trees ++ words ["--"]
  directory := r.directory

/-- Asks for the diff of a path. -/
def diffCommand (path : Text) : Command where
  arguments := words ["--literal-pathspecs", "diff"] ++ diffOptions
    ++ words ["-U0", "--src-prefix=a/", "--dst-prefix=b/"] ++ r.trees ++ words ["--"] ++ [path]
  directory := r.directory

end Repository

/-- The host shows a change between the trees of a repository: it lists the files, in any order, and
prints the diff of each of them, and nothing for any other path. -/
structure Shows (host : Host) (r : Repository) (files : List FileText) : Prop where
  listing : ∃ listed : List FileText, listed.Perm files ∧
    Prints host r.statusCommand (Text.terminated (statusFields (listed.map FileText.changed)))
  diff : ∀ f ∈ files, Prints host (r.diffCommand f.path.text) (renderFiles [f])
  other : ∀ path ∉ files.map (·.path.text), Prints host (r.diffCommand path) []

/-! ## Scripts that show a change -/

theorem Repository.diffCommand_injective {r : Repository} {path path' : Text}
    (h : (r.diffCommand path).arguments = (r.diffCommand path').arguments) : path = path' := by
  have hlast := List.append_cancel_left h
  exact List.head_eq_of_cons_eq hlast

/-- The reply of a command that ends well. -/
def printed (stdout : Text) : Reply := .ended (some 0) stdout [] none

/-- The rule for the listing of some files. -/
def Repository.listingRule (r : Repository) (listed : List FileText) : Rule where
  condition := .exactly r.statusCommand.arguments
  reply := printed (Text.terminated (statusFields (listed.map FileText.changed)))

/-- The rule for the diff of a file. -/
def Repository.diffRule (r : Repository) (f : FileText) : Rule where
  condition := .exactly (r.diffCommand f.path.text).arguments
  reply := printed (renderFiles [f])

/-- The rule for the diff of a path that is not changed. -/
def otherRule : Rule where
  condition := .mentions (words ["-U0"])
  reply := printed []

/-- The rules for a change, with the files listed in an order of their own. -/
def Repository.rules (r : Repository) (files listed : List FileText) : List Rule :=
  r.listingRule listed :: (files.map r.diffRule ++ [otherRule])

theorem prints_script {rules : List Rule} {rule : Rule} {c : Command} {stdout : Text}
    (h : rules.find? (·.condition.fits c) = some rule) (hreply : rule.reply = printed stdout) :
    Prints (script rules) c stdout := by
  refine ⟨[], none, ?_⟩
  simp only [script, h]
  exact hreply

theorem fits_exactly_iff {c : Command} {arguments : List Text} :
    (RuleCondition.exactly arguments).fits c = true ↔ c.arguments = arguments :=
  decide_eq_true_iff

theorem listingRule_not_fits (r : Repository) (listed : List FileText) (path : Text) :
    (r.listingRule listed).condition.fits (r.diffCommand path) = false := by
  rw [Bool.eq_false_iff, ne_eq, Repository.listingRule, fits_exactly_iff]
  intro h
  -- the two commands differ in their first word
  have hhead := congrArg List.head? h
  simp [Repository.diffCommand, Repository.statusCommand, words] at hhead

theorem diffRule_fits_iff (r : Repository) (f : FileText) (path : Text) :
    (r.diffRule f).condition.fits (r.diffCommand path) = true ↔ f.path.text = path := by
  rw [Repository.diffRule, fits_exactly_iff]
  constructor
  · intro h
    exact (Repository.diffCommand_injective h).symm
  · intro h
    rw [h]

theorem otherRule_fits (r : Repository) (path : Text) :
    otherRule.condition.fits (r.diffCommand path) = true := by
  simp [otherRule, RuleCondition.fits, Repository.diffCommand, words]

/-- The rule that a diff of a path comes to. -/
theorem find?_rules (r : Repository) (files listed : List FileText) (rest : List Rule)
    (path : Text) :
    (r.rules files listed ++ rest).find? (·.condition.fits (r.diffCommand path)) =
      some (((files.find? (·.path.text = path)).map r.diffRule).getD otherRule) := by
  have hrules : ∀ f : FileText, (r.diffRule f).condition.fits (r.diffCommand path) =
      decide (f.path.text = path) := by
    intro f
    rw [Bool.eq_iff_iff, diffRule_fits_iff, decide_eq_true_iff]
  rw [Repository.rules, List.cons_append, List.find?_cons, listingRule_not_fits,
    List.append_assoc, List.find?_append, List.find?_map]
  simp only [Function.comp_def, hrules]
  cases files.find? (fun f => decide (f.path.text = path)) with
  | some f => rfl
  | none =>
    rw [Option.map_none, Option.none_or, List.singleton_append, List.find?_cons, otherRule_fits]
    rfl

/-- There is a script for every change, whatever rules follow. -/
theorem shows_script (r : Repository) {files listed : List FileText} (hperm : listed.Perm files)
    (hpaths : (files.map (·.path.text)).Nodup) (rest : List Rule) :
    Shows (script (r.rules files listed ++ rest)) r files where
  listing := by
    have hfits : (r.listingRule listed).condition.fits r.statusCommand = true :=
      fits_exactly_iff.2 rfl
    have hfind : (r.rules files listed ++ rest).find? (·.condition.fits r.statusCommand) =
        some (r.listingRule listed) := by
      rw [Repository.rules, List.cons_append, List.find?_cons, hfits]
    exact ⟨listed, hperm, prints_script hfind rfl⟩
  diff := by
    intro f hf
    refine prints_script (find?_rules r files listed rest _) ?_
    rw [find?_path_of_mem hpaths hf]
    rfl
  other := by
    intro path hpath
    refine prints_script (find?_rules r files listed rest path) ?_
    rw [find?_path_of_not_mem hpath]
    rfl

/-! ## What a repository answers -/

/-- A revision that a change ends in has a tree. -/
theorem endTree_isNone {host : Host} {directory revision : Text} {found : Option Text × List Text}
    (h : (endTree host directory (some revision) ()).outcome = .ok found) :
    found.1.isNone = false := by
  obtain ⟨tree, -, hrest⟩ := Run.exists_of_bind_eq_ok h
  cases tree with
  | none => cases hrest
  | some tree =>
    obtain ⟨exempt, -, hfound⟩ := Run.exists_of_bind_eq_ok hrest
    cases hfound
    rfl

namespace Repository

variable {host : Host} {r : Repository} {files : List FileText}

/-- A repository that was opened up to a revision does not look at the working copy. -/
theorem newTree_isNone_of_open {directory revision : Text} {range : RevisionRange}
    (hnew : range.new = some revision)
    (h : (Repository.open host directory range ()).outcome = .ok r) : r.newTree.isNone = false := by
  obtain ⟨root, -, hrest⟩ := Run.exists_of_bind_eq_ok h
  obtain ⟨old, -, hrest⟩ := Run.exists_of_bind_eq_ok hrest
  obtain ⟨found, hend, hr⟩ := Run.exists_of_bind_eq_ok hrest
  cases hr
  rw [hnew] at hend
  exact endTree_isNone hend

theorem outcome_changedFiles (hpaths : (files.map (·.path.text)).Nodup)
    (hnul : ∀ f ∈ files, '\x00' ∉ f.path.text) (hnew : r.newTree.isNone = false)
    (hshows : Shows host r files) :
    (r.changedFiles host ()).outcome = .ok (listingOf files) := by
  obtain ⟨listed, hperm, hprints⟩ := hshows.listing
  have hfields : ∀ t ∈ statusFields (listed.map FileText.changed), '\x00' ∉ t := by
    refine nul_not_mem_statusFields fun file hfile => ?_
    obtain ⟨f, hf, rfl⟩ := List.mem_map.1 hfile
    exact hnul f (hperm.mem_iff.1 hf)
  refine (Run.outcome_bind_of_ok (outcome_list hfields hprints)).trans ?_
  rw [hnew]
  show Except.ok (Text.sortBy (·.path) (pairUp _ ++ ChangeSource.untracked [])) = _
  rw [pairUp_statusFields, ChangeSource.untracked, List.map_nil, List.append_nil,
    listingOf_eq_of_perm hperm.symm hpaths, listingOf]

theorem outcome_filePatch (hpaths : (files.map (·.path.text)).Nodup) (hshows : Shows host r files)
    (path : Text) : (r.filePatch host path ()).outcome = .ok (patchOf? files path) := by
  -- the printed diff has at most one file, and that has the path already
  have hprinted : ∃ diff, Prints host (r.diffCommand path) diff ∧
      (readPatches diff).head?.map (fun patch => { patch with path }) = patchOf? files path := by
    by_cases hmem : path ∈ files.map (·.path.text)
    · obtain ⟨f, hf, rfl⟩ := List.mem_map.1 hmem
      refine ⟨_, hshows.diff f hf, ?_⟩
      have hsingle : ([f].map (·.path.text)).Nodup := List.nodup_singleton _
      rw [readPatches_renderFiles hsingle, patchOf?, find?_path_of_mem hpaths hf]
      rfl
    · refine ⟨_, hshows.other path hmem, ?_⟩
      rw [patchOf?, find?_path_of_not_mem hmem]
      rfl
  obtain ⟨diff, hprints, hpatch⟩ := hprinted
  refine (Run.outcome_bind_of_ok (outcome_succeed rfl hprints)).trans ?_
  rw [← hpatch]
  rfl

end Repository

end Git

/-! ## Queries about changed files -/

namespace Query

open Session

variable {change change' : Change} {q : Query}

/-- Whether a query is about the changed files and their lines only. -/
def isOfChanges : Query → Bool
  | .select _ _ | .touches _ _ | .isDeleted _ => true
  | .treePaths _ | .isExempt _ | .locate _ => false

theorem alike_put_of_isOfChanges (hq : q.isOfChanges = true) :
    Alike change change' (q.put change) (q.put change') := by
  match q with
  | .select _ (some 0) => exact .pure _
  | .select patterns none => exact .bind (alike_select patterns) fun _ => .pure _
  | .select patterns (some (n + 1)) => exact .bind (alike_select patterns) fun _ => .pure _
  | .touches path range => exact .bind (alike_touches path range) fun _ => .pure _
  | .isDeleted path => exact .bind (alike_isDeleted path) fun _ => .pure _

/-- Such a query gives the same about two changes with the same files and patches, wherever they lie
and whatever else there is. -/
theorem outcome_put_eq (hq : q.isOfChanges = true)
    (hfiles : (change.source.changedFiles ()).outcome = (change'.source.changedFiles ()).outcome)
    (hpatches : ∀ path, (change.source.filePatch path ()).outcome =
      (change'.source.filePatch path ()).outcome) :
    (q.put change {}).outcome = (q.put change' {}).outcome := by
  -- the second change, moved to where the first one is
  let moved : Change :=
    { change' with source :=
        { change'.source with root := change.source.root, treeFiles := change.source.treeFiles } }
  have hmoved : q.put moved = q.put change' := by
    match q with
    | .select _ (some 0) => rfl
    | .select _ none => rfl
    | .select _ (some (_ + 1)) => rfl
    | .touches _ _ => rfl
    | .isDeleted _ => rfl
  have hagree : change.source.Agrees moved.source := ⟨rfl, hfiles, rfl, hpatches⟩
  have halike : Alike change moved (q.put change) (q.put moved) := alike_put_of_isOfChanges hq
  obtain ⟨x, hx, hx'⟩ := halike.settles hagree
  have hout := (hx {} (Memo.faithful_empty _)).1
  have hout' := (hx' {} (Memo.faithful_empty _)).1
  rw [hout, ← hmoved, hout']

end Query

/-! ## The two sources -/

/-- A change of files with distinct paths is known equally well from its whole diff and from a
repository that was opened up to a revision: both give the same listing and the same patch of every
path, whatever order the repository lists the files in; and no series of queries about changed files
tells the one from the other. -/
theorem ofDiff_agrees_repository {files : List FileText} (hpaths : (files.map (·.path.text)).Nodup)
    (hnul : ∀ f ∈ files, '\x00' ∉ f.path.text) (root : Option Text) (tree : Option (List Text))
    (exemptPatterns : List Text) {host : Git.Host} {directory revision : Text}
    {range : Git.RevisionRange} {r : Git.Repository} (hnew : range.new = some revision)
    (hopen : (Git.Repository.open host directory range ()).outcome = .ok r)
    (hshows : Git.Shows host r files) :
    let ofDiff := ChangeSource.ofDiff root (renderFiles files) tree [] exemptPatterns
    let repository := r.source host
    ((ofDiff.changedFiles ()).outcome = .ok (listingOf files) ∧
      (repository.changedFiles ()).outcome = .ok (listingOf files)) ∧
    (∀ path, (ofDiff.filePatch path ()).outcome = .ok (patchOf? files path) ∧
      (repository.filePatch path ()).outcome = .ok (patchOf? files path)) ∧
    ∀ (exempt exempt' : PatternSet) (queries : List Query), (∀ q ∈ queries, q.isOfChanges = true) →
      (Query.putAll ⟨ofDiff, exempt⟩ queries {}).map (·.outcome) =
        (Query.putAll ⟨repository, exempt'⟩ queries {}).map (·.outcome) := by
  intro ofDiff repository
  have hfiles : (ofDiff.changedFiles ()).outcome = .ok (listingOf files) :=
    ChangeSource.outcome_changedFiles_ofDiff root tree exemptPatterns hpaths
  have hfiles' : (repository.changedFiles ()).outcome = .ok (listingOf files) :=
    Git.Repository.outcome_changedFiles hpaths hnul
      (Git.Repository.newTree_isNone_of_open hnew hopen) hshows
  have hpatch : ∀ path, (ofDiff.filePatch path ()).outcome = .ok (patchOf? files path) :=
    ChangeSource.outcome_filePatch_ofDiff root tree exemptPatterns hpaths
  have hpatch' : ∀ path, (repository.filePatch path ()).outcome = .ok (patchOf? files path) :=
    Git.Repository.outcome_filePatch hpaths hshows
  refine ⟨⟨hfiles, hfiles'⟩, fun path => ⟨hpatch path, hpatch' path⟩, ?_⟩
  intro exempt exempt' queries hqueries
  rw [Query.outcome_putAll _ queries (Memo.faithful_empty _),
    Query.outcome_putAll _ queries (Memo.faithful_empty _)]
  refine List.map_congr_left fun q hq => ?_
  refine Query.outcome_put_eq (hqueries q hq) (hfiles.trans hfiles'.symm) fun path => ?_
  exact (hpatch path).trans (hpatch' path).symm

/-- A line is replaced by two in one file, another file is new, and a third one is gone. -/
def threeFiles : List FileText :=
  [ { path := ⟨"src/b.ts".toList, by decide, by decide, by decide, by decide, by decide⟩
      status := .modified
      hunks :=
        [ { oldStart := 3
            newStart := 3
            body :=
              [ ⟨.remove, ⟨"-- a/x".toList, by decide⟩, false⟩,
                ⟨.add, ⟨"++ b/x".toList, by decide⟩, false⟩,
                ⟨.add, ⟨"y".toList, by decide⟩, true⟩ ]
            heading := ⟨[], Text.feed_not_mem_nil⟩
            body_ne := by decide } ]
      announced := some ⟨"a/src/b.ts b/src/b.ts".toList, by decide⟩
      mode := none
      index := none
      hunks_ne := by simp },
    { path := ⟨"gone".toList, by decide, by decide, by decide, by decide, by decide⟩
      status := .deleted
      hunks :=
        [ { oldStart := 1
            newStart := 0
            body := [⟨.remove, ⟨"x".toList, by decide⟩, false⟩]
            heading := ⟨[], Text.feed_not_mem_nil⟩
            body_ne := by decide } ]
      announced := none
      mode := some ⟨"100755".toList, by decide⟩
      index := none
      hunks_ne := by simp },
    { path := ⟨"src/a.ts".toList, by decide, by decide, by decide, by decide, by decide⟩
      status := .added
      hunks :=
        [ { oldStart := 0
            newStart := 1
            body := [⟨.add, ⟨"x".toList, by decide⟩, false⟩]
            heading := ⟨[], Text.feed_not_mem_nil⟩
            body_ne := by decide } ]
      announced := none
      mode := some ⟨"100755".toList, by decide⟩
      index := none
      hunks_ne := by simp } ]

/-- A repository with two trees, around a working copy. -/
def twoTrees : Git.Repository where
  directory := "/r".toList
  root := some "/r".toList
  oldTree := "t0".toList
  newTree := some "t1".toList
  exemptPatterns := []

/-- The files between the two trees, listed backwards, and what it takes to open the repository. -/
def threeFilesHost : Git.Host :=
  Git.script (twoTrees.rules threeFiles threeFiles.reverse ++
    [ ⟨.mentions (Git.words ["--is-bare-repository"]), Git.printed "false\n".toList⟩,
      ⟨.mentions (Git.words ["--show-toplevel"]), Git.printed "/r\n".toList⟩,
      ⟨.mentions (Git.words ["HEAD^\x7btree\x7d"]), Git.printed "t0\n".toList⟩,
      ⟨.mentions (Git.words ["next^\x7btree\x7d"]), Git.printed "t1\n".toList⟩ ])

/-- A selection, a range and a deletion. -/
def threeQueries : List Query :=
  [.select ["src/*".toList] none, .touches "src/b.ts".toList ⟨4, 4⟩, .isDeleted "gone".toList]

theorem ofDiff_agrees_repository_threeFiles :
    (Git.Repository.open threeFilesHost "/r/src".toList ⟨none, some "next".toList⟩ ()).outcome =
        .ok twoTrees ∧
      Git.Shows threeFilesHost twoTrees threeFiles ∧
      ((twoTrees.source threeFilesHost).changedFiles ()).outcome =
        .ok [⟨"gone".toList, .deleted⟩, ⟨"src/a.ts".toList, .added⟩,
          ⟨"src/b.ts".toList, .modified⟩] ∧
      (Query.putAll ⟨.ofDiff none (renderFiles threeFiles) none [] [], []⟩ threeQueries {}).map
        (·.outcome) =
        (Query.putAll ⟨twoTrees.source threeFilesHost, []⟩ threeQueries {}).map (·.outcome) := by
  have hopen : (Git.Repository.open threeFilesHost "/r/src".toList
      ⟨none, some "next".toList⟩ ()).outcome = .ok twoTrees := by
    decide
  have hpaths : (threeFiles.map (·.path.text)).Nodup := by decide
  have hshows : Git.Shows threeFilesHost twoTrees threeFiles :=
    Git.shows_script twoTrees (List.reverse_perm _) hpaths _
  have hagree := ofDiff_agrees_repository hpaths (by decide) none none [] rfl hopen hshows
  refine ⟨hopen, hshows, hagree.1.2.trans ?_, ?_⟩
  · refine congrArg Except.ok (Text.sortBy_eq_of_pairwise ?_ hpaths ?_)
    · decide
    · decide
  · exact hagree.2.2 _ _ _ (by decide)

end Lockstep
