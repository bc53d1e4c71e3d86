import Lockstep.Git.Script
import Lockstep.Git.Source
import Lockstep.Proofs.Memory

/-!
# Which revisions a repository compares

A repository is opened once and then asked again and again, in any order and whatever
fails on the way.  This file follows the commands of all that and shows that the two
ways of comparing do not mix (`Git.Repository.compares_of_open`): up to a revision only
trees are looked at, and always the two that opening found; up to the working copy the
base tree alone is given, and there is a working copy.

* `Git.Within`: all commands of a job have a property.  This passes from jobs to jobs
  one after the other (`Git.Within.bind`).
* `Git.Repository.Asks`: the commands that answer questions, from
  `Git.Repository.asks_of_mem_commands`.
* `Git.Names`: a command of a run names an object.
* `Git.Repository.opened_of_open`: what opening finds out, and by which commands.
-/

namespace Lockstep

/-! ## Logs of runs one after the other -/

namespace Run

variable {σ ε ι α β : Type} {m : Run σ ε ι α} {f : α → Run σ ε ι β} {s : σ} {entry : ε}

theorem mem_log_bind_left (h : entry ∈ (m s).log) : entry ∈ ((m >>= f) s).log := by
  cases hout : (m s).outcome with
  | error why => rwa [bind_of_error hout]
  | ok a =>
    rw [bind_of_ok hout]
    exact List.mem_append_left _ h

theorem mem_log_bind_right {a : α} (hout : (m s).outcome = .ok a)
    (h : entry ∈ (f a (m s).state).log) : entry ∈ ((m >>= f) s).log := by
  rw [bind_of_ok hout]
  exact List.mem_append_right _ h

end Run

/-- The commands that a source gives to answer a question. -/
def ChangeSource.commands (source : ChangeSource) : Question → List Git.Command
  | .changedFiles => (source.changedFiles ()).log
  | .filePatch path => (source.filePatch path ()).log
  | .treeFiles => (source.treeFiles ()).log

namespace Git

/-! ## What a command is about -/

/-- The word that says what a command does: the first argument that is no option. -/
def Command.verb? (c : Command) : Option Text := c.arguments.find? (·.head? ≠ some '-')

/-- How a diff begins: one that lists files, or one that shows the lines of a file. -/
def diffStarts : List (List Text) :=
  [ words ["diff"] ++ diffOptions ++ words ["--name-status", "-z"],
    words ["--literal-pathspecs", "diff"] ++ diffOptions ++
      words ["-U0", "--src-prefix=a/", "--dst-prefix=b/"] ]

/-- A command compares these revisions: they are all that stands between the options of a diff and
the dashes before the paths. -/
def Command.Compares (c : Command) (revisions : List Text) : Prop :=
  ∃ start ∈ diffStarts, ∃ paths, c.arguments = start ++ revisions ++ words ["--"] ++ paths

/-! ## Commands of jobs -/

/-- All commands of a job have a property. -/
def Within (P : Command → Prop) (m : Job α) : Prop := ∀ c ∈ (m ()).log, P c

section Within

variable {P : Command → Prop} {α β : Type} {m : Job α} {f : α → Job β} {host : Host} {c : Command}

theorem within_pure (a : α) : Within P (pure a) := by
  intro c hc
  cases hc

theorem within_stop (why : Failure) : Within P (Run.stop why : Job α) := by
  intro c hc
  cases hc

theorem Within.bind (hm : Within P m) (hf : ∀ a, Within P (f a)) : Within P (m >>= f) := by
  intro c hc
  cases hout : (m ()).outcome with
  | error why =>
    rw [Run.bind_of_error hout] at hc
    exact hm c hc
  | ok a =>
    rw [Run.bind_of_ok hout] at hc
    rcases List.mem_append.1 hc with hc | hc
    · exact hm c hc
    · exact hf a c hc

theorem run_apply (host : Host) (c : Command) : run host c () = ⟨(host c).judge c, (), [c]⟩ := by
  unfold run
  cases (host c).judge c with
  | error why => rfl
  | ok output => rfl

theorem within_run (h : P c) : Within P (run host c) := by
  intro d hd
  rw [run_apply] at hd
  rwa [List.mem_singleton.1 hd]

theorem within_succeed (h : P c) : Within P (succeed host c) := by
  refine (within_run h).bind fun output => ?_
  split
  · exact within_pure _
  · exact within_stop _

end Within

/-! ## Questions -/

namespace Repository

/-- The commands that answer questions: diffs of the trees at hand, listings of the new tree, and
listings of the working copy where there is no new tree. -/
inductive Asks (r : Repository) : Command → Prop
  | diff {c : Command} (compares : c.Compares r.trees)
      (verb : c.verb? = some "diff".toList) : Asks r c
  | tree {c : Command} (verb : c.verb? = some "ls-tree".toList) : Asks r c
  | workingCopy {c : Command} (working : r.newTree = none)
      (verb : c.verb? = some "ls-files".toList) :
    Asks r c

variable (host : Host) (r : Repository)

theorem within_list {arguments : List Text} (h : r.Asks ⟨arguments, r.directory, none⟩) :
    Within r.Asks (r.list host arguments) :=
  (within_succeed h).bind fun _ => within_pure _

theorem within_changedFiles : Within r.Asks (r.changedFiles host) := by
  refine (r.within_list host (.diff ?_ rfl)).bind fun fields => ?_
  · exact ⟨_, List.mem_cons_self, [], by simp [words]⟩
  cases hnew : r.newTree with
  | none => exact (r.within_list host (.workingCopy hnew rfl)).bind fun _ => within_pure _
  | some tree => exact (within_pure _).bind fun _ => within_pure _

theorem within_filePatch (path : Text) : Within r.Asks (r.filePatch host path) := by
  refine (within_succeed (.diff ?_ rfl)).bind fun diff => within_pure _
  exact ⟨_, List.mem_cons_of_mem _ List.mem_cons_self, [path], rfl⟩

theorem within_treeFiles : Within r.Asks (r.treeFiles host) := by
  unfold treeFiles
  cases hnew : r.newTree with
  | some tree => exact (r.within_list host (.tree rfl)).bind fun _ => within_pure _
  | none =>
    refine (r.within_list host (.workingCopy hnew rfl)).bind fun listed => ?_
    exact (r.within_list host (.workingCopy hnew rfl)).bind fun gone => within_pure _

theorem asks_of_mem_commands {question : Question} {c : Command}
    (hc : c ∈ (r.source host).commands question) : r.Asks c := by
  cases question with
  | changedFiles => exact r.within_changedFiles host c hc
  | filePatch path => exact r.within_filePatch host path c hc
  | treeFiles => exact r.within_treeFiles host c hc

end Repository

/-! ## Opening -/

/-- The words of the commands that open a repository. -/
def openingVerbs : List Text := words ["rev-parse", "hash-object", "log"]

/-- Opening a repository gives no other commands than these. -/
def Prepares (c : Command) : Prop := ∃ verb ∈ openingVerbs, c.verb? = some verb

theorem prepares_resolveCommand (directory revision : Text) (kind : String) :
    Prepares (resolveCommand directory revision kind) :=
  ⟨_, List.mem_cons_self, rfl⟩

theorem Prepares.verb?_ne {c : Command} (h : Prepares c) :
    c.verb? ≠ some "diff".toList ∧ c.verb? ≠ some "ls-files".toList := by
  obtain ⟨verb, hverb, hc⟩ := h
  have hothers : ∀ verb ∈ openingVerbs, verb ≠ "diff".toList ∧ verb ≠ "ls-files".toList := by decide
  rw [hc]
  simpa using hothers verb hverb

section Opening

variable (host : Host) (directory : Text)

theorem within_tree? (revision : Text) : Within Prepares (tree? host directory revision) :=
  (within_run (prepares_resolveCommand ..)).bind fun _ => within_pure _

theorem within_workingCopy? (range : RevisionRange) :
    Within Prepares (workingCopy? host directory range) := by
  refine (within_run ⟨_, List.mem_cons_self, rfl⟩).bind fun bare => ?_
  split
  · exact within_stop _
  split
  · exact (within_succeed ⟨_, List.mem_cons_self, rfl⟩).bind fun top => within_pure _
  split
  · exact within_stop _
  · exact within_pure _

theorem within_startTree (revision : Option Text) :
    Within Prepares (startTree host directory revision) := by
  refine (within_tree? host directory _).bind fun tree => ?_
  cases tree with
  | some tree => exact within_pure _
  | none =>
    cases revision with
    | none =>
      refine (within_succeed ?_).bind fun tree => within_pure _
      exact ⟨_, List.mem_cons_of_mem _ List.mem_cons_self, rfl⟩
    | some revision => exact within_stop _

theorem within_readExemptions (revision : Text) :
    Within Prepares (readExemptions host directory revision) := by
  refine (within_run (prepares_resolveCommand ..)).bind fun commit => ?_
  split
  · exact within_pure _
  · refine (within_succeed ?_).bind fun trailers => within_pure _
    exact ⟨_, List.mem_cons_of_mem _ (List.mem_cons_of_mem _ List.mem_cons_self), rfl⟩

theorem within_endTree (revision : Option Text) :
    Within Prepares (endTree host directory revision) := by
  cases revision with
  | none => exact within_pure _
  | some revision =>
    refine (within_tree? host directory revision).bind fun tree => ?_
    cases tree with
    | none => exact within_stop _
    | some tree => exact (within_readExemptions host directory revision).bind fun _ => within_pure _

theorem within_open (range : RevisionRange) :
    Within Prepares (Repository.open host directory range) := by
  refine (within_workingCopy? host directory range).bind fun root => ?_
  refine (within_startTree host _ range.old).bind fun old => ?_
  exact (within_endTree host _ range.new).bind fun found => within_pure _

end Opening

/-! ## What opening finds out -/

/-- A command names an object: it is one of the commands given, it ended well, and this is what it
printed. -/
structure Names (host : Host) (given : List Command) (c : Command) (object : Text) : Prop where
  mem : c ∈ given
  printed : ∃ output, (host c).judge c = .ok output ∧ output.code = 0 ∧ output.stdout.trim = object

/-- Asks for the tree that has nothing in it. -/
def emptyTreeCommand (directory : Text) : Command where
  arguments := words ["hash-object", "-t", "tree", "--stdin"]
  directory
  input := some []

/-- A tree that a change can start at: the tree of the revision, or the empty one where no revision
was given. -/
def StartsAt (host : Host) (given : List Command) (directory : Text) (revision : Option Text)
    (tree : Text) : Prop :=
  Names host given (resolveCommand directory (revision.getD head) "tree") tree ∨
    revision = none ∧ Names host given (emptyTreeCommand directory) tree

section Found

variable {host : Host} {given given' : List Command} {c : Command} {directory object : Text}

theorem Names.mono (h : Names host given c object) (hsub : ∀ d ∈ given, d ∈ given') :
    Names host given' c object :=
  ⟨hsub c h.mem, h.printed⟩

theorem StartsAt.mono {revision : Option Text} {tree : Text}
    (h : StartsAt host given directory revision tree) (hsub : ∀ d ∈ given, d ∈ given') :
    StartsAt host given' directory revision tree := by
  rcases h with h | ⟨hnone, h⟩
  · exact .inl (h.mono hsub)
  · exact .inr ⟨hnone, h.mono hsub⟩

theorem names_of_run {output : Output} (h : (run host c ()).outcome = .ok output)
    (hcode : output.code = 0) : Names host (run host c ()).log c output.stdout.trim := by
  rw [run_apply] at h ⊢
  exact ⟨List.mem_singleton_self c, output, h, hcode, rfl⟩

theorem names_of_tree? {revision tree : Text}
    (h : (tree? host directory revision ()).outcome = .ok (some tree)) :
    Names host (tree? host directory revision ()).log
      (resolveCommand directory revision "tree") tree := by
  obtain ⟨output, hrun, hrest⟩ := Run.exists_of_bind_eq_ok h
  by_cases hcode : output.code = 0
  · rw [if_pos hcode] at hrest
    cases hrest
    exact (names_of_run hrun hcode).mono fun d => Run.mem_log_bind_left
  · rw [if_neg hcode] at hrest
    cases hrest

theorem names_of_succeed {stdout : Text} (h : (succeed host c ()).outcome = .ok stdout) :
    Names host (succeed host c ()).log c stdout.trim := by
  obtain ⟨output, hrun, hrest⟩ := Run.exists_of_bind_eq_ok h
  by_cases hcode : output.code = 0
  · rw [if_pos hcode] at hrest
    cases hrest
    exact (names_of_run hrun hcode).mono fun d => Run.mem_log_bind_left
  · rw [if_neg hcode] at hrest
    cases hrest

theorem startsAt_of_startTree {revision : Option Text} {tree : Text}
    (h : (startTree host directory revision ()).outcome = .ok tree) :
    StartsAt host (startTree host directory revision ()).log directory revision tree := by
  obtain ⟨found, htree, hrest⟩ := Run.exists_of_bind_eq_ok h
  cases found with
  | some found =>
    cases hrest
    exact .inl ((names_of_tree? htree).mono fun d => Run.mem_log_bind_left)
  | none =>
    cases revision with
    | some revision => cases hrest
    | none =>
      obtain ⟨printed, hprinted, hpure⟩ := Run.exists_of_bind_eq_ok hrest
      cases hpure
      refine .inr ⟨rfl, (names_of_succeed hprinted).mono fun d hd => ?_⟩
      exact Run.mem_log_bind_right htree (Run.mem_log_bind_left hd)

theorem names_of_endTree {revision : Text} {found : Option Text × List Text}
    (h : (endTree host directory (some revision) ()).outcome = .ok found) :
    ∃ tree, found.1 = some tree ∧ Names host (endTree host directory (some revision) ()).log
      (resolveCommand directory revision "tree") tree := by
  obtain ⟨tree, htree, hrest⟩ := Run.exists_of_bind_eq_ok h
  cases tree with
  | none => cases hrest
  | some tree =>
    obtain ⟨exempt, -, hpure⟩ := Run.exists_of_bind_eq_ok hrest
    cases hpure
    exact ⟨tree, rfl, (names_of_tree? htree).mono fun d => Run.mem_log_bind_left⟩

/-- Without a newer revision there is a working copy, or opening stops. -/
theorem isSome_of_workingCopy? {range : RevisionRange} {root : Option Text}
    (hnew : range.new = none) (h : (workingCopy? host directory range ()).outcome = .ok root) :
    root.isSome = true := by
  obtain ⟨bare, -, hrest⟩ := Run.exists_of_bind_eq_ok h
  split at hrest
  · cases hrest
  split at hrest
  · obtain ⟨top, -, hpure⟩ := Run.exists_of_bind_eq_ok hrest
    cases hpure
    rfl
  · rw [hnew] at hrest
    cases hrest

end Found

namespace Repository

/-- What is known of a repository that was opened for a range of revisions. -/
structure Opened (host : Host) (given : List Command) (range : RevisionRange) (r : Repository) :
    Prop where
  base : StartsAt host given r.directory range.old r.oldTree
  target : ∀ revision, range.new = some revision → ∃ tree, r.newTree = some tree ∧
    Names host given (resolveCommand r.directory revision "tree") tree
  working : range.new = none → r.newTree = none ∧ r.exemptPatterns = [] ∧ r.root.isSome = true

theorem opened_of_open {host : Host} {directory : Text} {range : RevisionRange} {r : Repository}
    (h : (Repository.open host directory range ()).outcome = .ok r) :
    Opened host (Repository.open host directory range ()).log range r := by
  obtain ⟨root, hroot, hrest⟩ := Run.exists_of_bind_eq_ok h
  obtain ⟨old, hold, hlast⟩ := Run.exists_of_bind_eq_ok hrest
  obtain ⟨found, hend, hpure⟩ := Run.exists_of_bind_eq_ok hlast
  cases hpure
  refine ⟨?_, ?_, ?_⟩
  · refine (startsAt_of_startTree hold).mono fun d hd => ?_
    exact Run.mem_log_bind_right hroot (Run.mem_log_bind_left hd)
  · intro revision hnew
    rw [hnew] at hend
    obtain ⟨tree, htree, hnames⟩ := names_of_endTree hend
    refine ⟨tree, htree, hnames.mono fun d hd => ?_⟩
    rw [← hnew] at hd hend
    exact Run.mem_log_bind_right hroot (Run.mem_log_bind_right hold (Run.mem_log_bind_left hd))
  · intro hnew
    rw [hnew] at hend
    cases hend
    exact ⟨rfl, rfl, isSome_of_workingCopy? hnew hroot⟩

/-! ## All commands of a run -/

/-- Every command of a run opens the repository or answers a question. -/
theorem prepares_or_asks {host : Host} {directory : Text} {range : RevisionRange} {r : Repository}
    {questions : List Question} {c : Command}
    (hc : c ∈ (Repository.open host directory range ()).log ++
      questions.flatMap (r.source host).commands) : Prepares c ∨ r.Asks c := by
  rcases List.mem_append.1 hc with hc | hc
  · exact .inl (within_open host directory range c hc)
  · obtain ⟨question, -, hc⟩ := List.mem_flatMap.1 hc
    exact .inr (r.asks_of_mem_commands host hc)

/-- Every diff of a run compares the trees that opening found. -/
theorem compares_trees {c : Command} {r : Repository} (h : Prepares c ∨ r.Asks c)
    (hdiff : c.verb? = some "diff".toList) : c.Compares r.trees := by
  rcases h with h | h
  · exact absurd hdiff h.verb?_ne.1
  · cases h with
    | diff compares verb => exact compares
    | tree verb =>
      rw [verb] at hdiff
      simp at hdiff
    | workingCopy working verb =>
      rw [verb] at hdiff
      simp at hdiff

/-- With a new tree, no command lists the working copy. -/
theorem verb?_ne_listing {c : Command} {r : Repository} {tree : Text} (h : Prepares c ∨ r.Asks c)
    (hnew : r.newTree = some tree) : c.verb? ≠ some "ls-files".toList := by
  rcases h with h | h
  · exact h.verb?_ne.2
  · cases h with
    | diff compares verb => simp [verb]
    | tree verb => simp [verb]
    | workingCopy working verb =>
      rw [hnew] at working
      cases working

/-- A repository keeps to the revisions that it was opened for, whatever questions follow.  Up to a
revision, no command lists the working copy and every diff compares the two trees that were found
when the repository was opened.  Up to the working copy, nothing is exempt, every diff is given the
tree of the older revision alone, and the working copy exists.  So where there is none, there is a
tree that the change ends in. -/
theorem compares_of_open {host : Host} {directory : Text} {range : RevisionRange} {r : Repository}
    (hopen : (Repository.open host directory range ()).outcome = .ok r)
    (questions : List Question) :
    let opening := (Repository.open host directory range ()).log
    let given := opening ++ questions.flatMap (r.source host).commands
    StartsAt host opening r.directory range.old r.oldTree ∧
      (∀ revision, range.new = some revision → ∃ target,
        r.newTree = some target ∧
        Names host opening (resolveCommand r.directory revision "tree") target ∧
        (∀ c ∈ given, c.verb? ≠ some "ls-files".toList) ∧
        ∀ c ∈ given, c.verb? = some "diff".toList → c.Compares [r.oldTree, target]) ∧
      (range.new = none → (r.source host).exemptPatterns = [] ∧ (r.source host).root.isSome = true ∧
        ∀ c ∈ given, c.verb? = some "diff".toList → c.Compares [r.oldTree]) ∧
      ((r.source host).root = none → r.newTree.isSome = true) := by
  intro opening given
  have hopened := opened_of_open hopen
  refine ⟨hopened.base, ?_, ?_, ?_⟩
  · intro revision hnew
    obtain ⟨target, htarget, hnames⟩ := hopened.target revision hnew
    have htrees : r.trees = [r.oldTree, target] := by rw [trees, htarget]; rfl
    refine ⟨target, htarget, hnames, ?_, ?_⟩
    · intro c hc
      exact verb?_ne_listing (prepares_or_asks hc) htarget
    · intro c hc hdiff
      rw [← htrees]
      exact compares_trees (prepares_or_asks hc) hdiff
  · intro hnew
    obtain ⟨hnone, hexempt, hroot⟩ := hopened.working hnew
    have htrees : r.trees = [r.oldTree] := by rw [trees, hnone]; rfl
    refine ⟨hexempt, hroot, ?_⟩
    intro c hc hdiff
    rw [← htrees]
    exact compares_trees (prepares_or_asks hc) hdiff
  · intro hroot
    cases hnew : range.new with
    | some revision =>
      obtain ⟨target, htarget, -⟩ := hopened.target revision hnew
      rw [htarget]
      rfl
    | none =>
      have hsome : r.root.isSome = true := (hopened.working hnew).2.2
      rw [show r.root = none from hroot] at hsome
      cases hsome

end Repository

/-- A repository without a working copy and without a first commit, in which a tree has a name. -/
def bareHost : Host :=
  let rule (word answer : String) : Rule :=
    ⟨.mentions [word.toList], .ended (some 0) answer.toList [] none⟩
  script
    [rule "--is-bare-repository" "true\n", rule "hash-object" "t0\n",
      rule "next^\x7btree\x7d" "t1\n", rule "diff" "", rule "ls-tree" "a\x00"]

/-- The repository as it is opened up to that tree. -/
def bareRepository : Repository where
  directory := "/b".toList
  root := none
  oldTree := "t0".toList
  newTree := some "t1".toList
  exemptPatterns := []

/-- Even a path that has the name of a command is only compared between the two trees. -/
theorem Repository.compares_of_open_bare :
    let opening := Repository.open bareHost "/b".toList ⟨none, some "next".toList⟩ ()
    opening.outcome = .ok bareRepository ∧
      StartsAt bareHost opening.log "/b".toList none "t0".toList ∧
      ∀ c ∈ opening.log ++
        [.changedFiles, .filePatch "ls-files".toList, .treeFiles, .changedFiles].flatMap
          (bareRepository.source bareHost).commands,
        c.verb? ≠ some "ls-files".toList ∧
          (c.verb? = some "diff".toList → c.Compares ["t0".toList, "t1".toList]) := by
  intro opening
  have hopen : opening.outcome = .ok bareRepository := by decide +kernel
  obtain ⟨hbase, htarget, -, -⟩ := compares_of_open hopen
    [.changedFiles, .filePatch "ls-files".toList, .treeFiles, .changedFiles]
  obtain ⟨target, hnew, -, hlisting, hdiff⟩ := htarget "next".toList rfl
  cases hnew
  exact ⟨hopen, hbase, fun c hc => ⟨hlisting c hc, hdiff c hc⟩⟩

end Git

end Lockstep
