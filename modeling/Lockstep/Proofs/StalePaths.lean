import Lockstep.Proofs.Survey

/-!
# Listed paths that are gone

A listing can hold paths at which there is nothing any more.  This file says when a scan
goes on as if such a path were not listed.

* `FileTree.LeadsNowhere`: something on a path is not there, or is a file where the path
  goes on.
* `FileTree.read_eq_missing_iff`: the system calls a path missing if it comes to a name
  that is not there through directories only.
* `Check.scan_without_iff`: a listed path that is missing changes nothing.  One that leads
  through a file ends the scan (`Check.scan_stopped_by_file`).
-/

namespace Lockstep

/-! ## Paths that lead nowhere -/

namespace FileTree

variable {tree : FileTree} {access : FileAccess} {path : Text} {done names : List Text}

/-- A path that leads nowhere: somewhere on it there is nothing of the name, or there is a file
where the path goes on. -/
def LeadsNowhere (tree : FileTree) (path : Text) : Prop :=
  ∃ done name rest, FileTree.names path = done ++ name :: rest ∧
    (tree.at? (done ++ [name]) = none ∨
      (∃ text, tree.at? (done ++ [name]) = some (.file text)) ∧
        (rest ≠ [] ∨ path.getLast? = some '/'))

/-- What can be wrong with a path. -/
theorem follow_error {fault : FileFault} (h : tree.follow access path done names = .error fault) :
    fault = .missing access path ∨ fault = .notDirectory access path ∨
      fault = .nameTooLong access path := by
  induction names generalizing done with
  | nil => cases h
  | cons name rest ih =>
    rw [follow] at h
    split at h
    · cases h
      exact .inr (.inr rfl)
    · split at h
      · cases h
        exact .inl rfl
      · exact ih h
      · split at h
        · cases h
        · cases h
          exact .inr (.inl rfl)

/-- Following names does not get past one that leads nowhere. -/
theorem follow_nowhere (access : FileAccess) (done before : List Text) {rest : List Text}
    {name : Text} (h : tree.at? (done ++ before ++ [name]) = none ∨
      (∃ text, tree.at? (done ++ before ++ [name]) = some (.file text)) ∧
        (rest ≠ [] ∨ path.getLast? = some '/')) :
    ∃ fault, tree.follow access path done (before ++ name :: rest) = .error fault := by
  induction before generalizing done with
  | nil =>
    rw [List.append_nil] at h
    rw [List.nil_append, follow]
    split
    · exact ⟨_, rfl⟩
    · rcases h with h | ⟨⟨text, h⟩, hrest⟩
      · rw [h]
        exact ⟨_, rfl⟩
      · have hends : ¬ (rest.isEmpty = true ∧ path.getLast? ≠ some '/') := by
          rw [List.isEmpty_iff]
          rintro ⟨hnil, hslash⟩
          exact hrest.elim (fun hne => hne hnil) hslash
        rw [h]
        dsimp only
        rw [if_neg hends]
        exact ⟨_, rfl⟩
  | cons first before ih =>
    rw [List.cons_append, follow]
    split
    · exact ⟨_, rfl⟩
    · split
      · exact ⟨_, rfl⟩
      · refine ih _ ?_
        rwa [List.append_assoc done [first] before, List.singleton_append]
      · rw [if_neg (by simp)]
        exact ⟨_, rfl⟩

/-- A path that leads nowhere cannot be read, and the system says why. -/
theorem LeadsNowhere.read_eq (h : tree.LeadsNowhere path) :
    ∃ fault, tree.read path = .error fault ∧
      (fault = .missing .opening path ∨ fault = .notDirectory .opening path ∨
        fault = .nameTooLong .opening path) := by
  obtain ⟨done, name, rest, hnames, h⟩ := h
  obtain ⟨fault, hfault⟩ := follow_nowhere .opening [] done h
  rw [← hnames] at hfault
  refine ⟨fault, ?_, follow_error hfault⟩
  rw [read, find, hfault]

/-! ## Paths that are missing -/

/-- Behind the names `done` there is a name that is not there, through directories only and without
a name that is too long. -/
def MissesAfter (tree : FileTree) (done names : List Text) : Prop :=
  ∃ before name rest, names = before ++ name :: rest ∧ tree.at? (done ++ before ++ [name]) = none ∧
    (∀ n ∈ before ++ [name], (Utf8.encode n).length ≤ maxName) ∧
    ∀ way, way <+: before → way ≠ [] → tree.at? (done ++ way) = some .directory

/-- A path on which the first thing that is no directory is a name that is not there. -/
def Misses (tree : FileTree) (path : Text) : Prop := tree.MissesAfter [] (FileTree.names path)

theorem missesAfter_cons {name : Text} :
    tree.MissesAfter done (name :: names) ↔
      (Utf8.encode name).length ≤ maxName ∧
        (tree.at? (done ++ [name]) = none ∨
          tree.at? (done ++ [name]) = some .directory ∧
            tree.MissesAfter (done ++ [name]) names) := by
  constructor
  · rintro ⟨before, last, rest, heq, hnone, hshort, hway⟩
    cases before with
    | nil =>
      cases heq
      rw [List.append_nil] at hnone
      exact ⟨hshort _ List.mem_cons_self, .inl hnone⟩
    | cons first before =>
      obtain ⟨rfl, rfl⟩ := List.cons.inj heq
      refine ⟨hshort _ List.mem_cons_self, .inr ⟨hway [name] ?_ (List.cons_ne_nil _ _), ?_⟩⟩
      · exact List.cons_prefix_cons.2 ⟨rfl, List.nil_prefix⟩
      · refine ⟨before, last, rest, rfl, ?_, fun n hn => hshort n (List.mem_cons_of_mem _ hn), ?_⟩
        · rwa [List.append_assoc done [name] before, List.singleton_append]
        · intro way hprefix _
          rw [List.append_assoc, List.singleton_append]
          exact hway (name :: way) (List.cons_prefix_cons.2 ⟨rfl, hprefix⟩) (List.cons_ne_nil _ _)
  · rintro ⟨hname, hnone | ⟨hdirectory, before, last, rest, rfl, hnone, hshort, hway⟩⟩
    · refine ⟨[], name, names, rfl, by rwa [List.append_nil], ?_, ?_⟩
      · simpa using hname
      · intro way hprefix hne
        exact absurd (List.prefix_nil.1 hprefix) hne
    · refine ⟨name :: before, last, rest, rfl, ?_, ?_, ?_⟩
      · rwa [List.append_assoc done [name] before, List.singleton_append] at hnone
      · exact List.forall_mem_cons.2 ⟨hname, hshort⟩
      · intro way hprefix hne
        cases way with
        | nil => exact absurd rfl hne
        | cons first way =>
          obtain ⟨rfl, hway'⟩ := List.cons_prefix_cons.1 hprefix
          by_cases hnil : way = []
          · rwa [hnil]
          · have hdirectory' := hway way hway' hnil
            rwa [List.append_assoc, List.singleton_append] at hdirectory'

theorem follow_eq_missing_iff :
    tree.follow access path done names = .error (.missing access path) ↔
      tree.MissesAfter done names := by
  induction names generalizing done with
  | nil =>
    refine ⟨fun h => ?_, ?_⟩
    · cases h
    · rintro ⟨before, name, rest, heq, -⟩
      simp at heq
  | cons name rest ih =>
    rw [follow, missesAfter_cons, ← ih]
    by_cases hlong : maxName < (Utf8.encode name).length
    · simp [hlong, Nat.not_le.2 hlong]
    · rw [if_neg hlong]
      cases hat : tree.at? (done ++ [name]) with
      | none => simpa using hlong
      | some node =>
        cases node with
        | directory => simpa using fun _ => Nat.le_of_not_lt hlong
        | file text =>
          dsimp only
          split <;> simp

/-- Which paths the system calls missing. -/
theorem read_eq_missing_iff :
    tree.read path = .error (.missing .opening path) ↔ tree.Misses path := by
  have hfollow := @follow_eq_missing_iff tree .opening path [] (FileTree.names path)
  rw [Misses, ← hfollow, read, find]
  cases tree.follow .opening path [] (FileTree.names path) with
  | error fault => simp
  | ok node => cases node <;> simp

end FileTree

/-! ## Listed paths at which there is nothing -/

/-- The same change with another listing of the later snapshot. -/
def Change.listing (change : Change) (tree : List Text) : Change :=
  { change with source := { change.source with treeFiles := pure tree } }

namespace Check

open Session

theorem surveyTree_listing (change : Change) (disk : FileTree) (patterns tree : List Text) :
    surveyTree (change.listing tree) disk patterns = surveyListing change disk patterns tree := by
  -- what is at a path does not depend on the listing
  have hfiles : ∀ files,
      surveyFiles (change.listing tree) disk files = surveyFiles change disk files := by
    intro files
    induction files with
    | nil => rfl
    | cons file files ih =>
      rw [surveyFiles, ih]
      rfl
  exact congrArg (Survey.given (chosenFiles patterns tree)) (funext hfiles)

/-- A path that is not asked for makes no difference. -/
theorem surveyListing_without (change : Change) (disk : FileTree) {patterns : List Text}
    {path : Text} (h : ¬ AskedFor patterns path) (before behind : List Text) :
    surveyListing change disk patterns (before ++ path :: behind) =
      surveyListing change disk patterns (before ++ behind) := by
  rw [surveyListing, surveyListing, chosenFiles, chosenFiles, List.filter_append,
    List.filter_append, List.filter_cons_of_neg (by simpa using h)]

theorem surveyFile_of_fault {change : Change} {disk : FileTree} {path place : Text}
    {fault : FileFault} (hplace : change.locate path = .ok place)
    (hread : disk.read place = .error fault)
    (hfault : fault = .missing .opening place ∨ fault = .notDirectory .opening place ∨
        fault = .nameTooLong .opening place) :
    surveyFile change disk path = if fault = .missing .opening place then .clear
      else .stopped (.file fault) := by
  rw [surveyFile, hplace, Survey.given, hread]
  rcases hfault with rfl | rfl | rfl <;> simp

/-- A listed path that leads nowhere.  The scan reports and ends as without it exactly if the path
is missing or not asked for, or if the scan does not come to it, or if without it the rest of the
scan would end at once in the same words. -/
theorem scan_without_iff (change : Change) (disk : FileTree) (verbose : Bool)
    (patterns before behind : List Text) (path place : Text)
    (hplace : change.locate path = .ok place) (hgone : disk.LeadsNowhere place) :
    let scan := fun tree => runUpTo none (scanTree (change.listing tree) disk verbose patterns)
    let asked := List.filter fun file => AskedFor patterns file
    (reported (scan (before ++ path :: behind)).log = reported (scan (before ++ behind)).log ∧
        (scan (before ++ path :: behind)).outcome = (scan (before ++ behind)).outcome) ↔
      disk.Misses place ∨ ¬ AskedFor patterns path ∨
        (surveyFiles change disk (asked before)).failure ≠ none ∨
        ∃ fault, disk.read place = .error fault ∧
          surveyFiles change disk (asked behind) = .stopped (.file fault) := by
  intro scan asked
  have hscan : ∀ tree,
      reported (scan tree).log = (surveyListing change disk patterns tree).violations ∧
      (scan tree).outcome = (surveyListing change disk patterns tree).outcome := by
    intro tree
    rw [← surveyTree_listing]
    exact (comesTo_scanTree (change.listing tree) disk verbose patterns).runUpTo
  rw [(hscan _).1, (hscan _).1, (hscan _).2, (hscan _).2, ← Survey.ext_outcome,
    ← FileTree.read_eq_missing_iff]
  by_cases hasked : AskedFor patterns path
  · obtain ⟨fault, hread, hfault⟩ := hgone.read_eq
    have hfile := surveyFile_of_fault hplace hread hfault
    have hsplit : ∀ files, surveyListing change disk patterns (before ++ files) =
        (surveyFiles change disk (asked before)).andThen
          (surveyFiles change disk (asked files)) := by
      intro files
      rw [surveyListing, chosenFiles_of_asked hasked, List.filter_append]
      exact surveyFiles_append change disk _ _
    have hpath : asked (path :: behind) = path :: asked behind :=
      List.filter_cons_of_pos (by simpa using hasked)
    rw [hsplit, hsplit, hpath, surveyFiles, hfile, hread]
    by_cases hmissing : fault = .missing .opening place
    · simp [hmissing, Survey.clear_andThen]
    · rw [if_neg hmissing, Survey.andThen_stopped_eq_iff]
      simp [hmissing, hasked]
  · simp [hasked, surveyListing_without change disk hasked]

/-- A source in whose working copy some paths are stale. -/
def staleSource : ChangeSource where
  root := some "/repo".toList
  exemptPatterns := []
  changedFiles := pure []
  filePatch := fun _ => pure none
  treeFiles := pure []

/-- A file where there was a directory, and a block that does not end. -/
def staleDisk : FileTree :=
  .ofFiles "/repo".toList [(['a'], .file ['x']), (['b'], .file "# if-changed\n".toList)]

/-- A path in a directory that is gone changes nothing. -/
theorem scan_without_iff_stale :
    (Change.mk staleSource []).locate "gone/x".toList = .ok "/repo/gone/x".toList ∧
      staleDisk.LeadsNowhere "/repo/gone/x".toList ∧
      let scan := fun tree =>
        runUpTo none (scanTree ((Change.mk staleSource []).listing tree) staleDisk false [])
      reported (scan ["gone/x".toList, ['b']]).log = reported (scan [['b']]).log ∧
        (scan ["gone/x".toList, ['b']]).outcome = (scan [['b']]).outcome := by
  have hplace : (Change.mk staleSource []).locate "gone/x".toList = .ok "/repo/gone/x".toList := rfl
  have hgone : staleDisk.LeadsNowhere "/repo/gone/x".toList :=
    ⟨["repo".toList], "gone".toList, [['x']], by decide, .inl (by decide)⟩
  have hmisses : staleDisk.Misses "/repo/gone/x".toList :=
    FileTree.read_eq_missing_iff.1 (by decide)
  exact ⟨hplace, hgone,
    (scan_without_iff _ staleDisk false [] [] [['b']] _ _ hplace hgone).2 (.inl hmisses)⟩

/-- A path that leads through a file ends the scan, and what is wrong behind it is not reported. -/
theorem scan_stopped_by_file :
    staleDisk.LeadsNowhere "/repo/a/x".toList ∧
      let scan := fun tree =>
        runUpTo none (scanTree ((Change.mk staleSource []).listing tree) staleDisk false [])
      (reported (scan ["a/x".toList, ['b']]).log = [] ∧
        (scan ["a/x".toList, ['b']]).outcome =
          .error (.failed (.file (.notDirectory .opening "/repo/a/x".toList)))) ∧
      reported (scan [['b']]).log = [.malformed ['b'] (.noClosing 1)] ∧
        (scan [['b']]).outcome = .ok () := by
  refine ⟨⟨["repo".toList], ['a'], [['x']], by decide, .inr ⟨⟨['x'], by decide⟩, ?_⟩⟩, ?_⟩
  · exact .inl (List.cons_ne_nil _ _)
  · decide +kernel

end Check

end Lockstep
