import Lockstep.Proofs.Agreement
import Lockstep.Proofs.Revisions
import Lockstep.Proofs.Selection

/-!
# Lists of files

A repository asks for listings in which a NUL ends every field: letters and paths of what
changed, paths that are not tracked, and the paths of a tree or of the working copy.  This
file shows that nothing is lost or made up on the way from these listings to the answers
of the repository, and in which order the answers are (`Git.Repository.answers_listings`).

* `Text.filter_sortBy`: sorting leaves items with the same key in the order they came.
* `Text.pairwise_sortedDistinct`: each text once, in the order of their 16-bit units.
* `Git.Listings`: what the listings say, and `Git.Repository.Lists`: that they are printed.
* `Git.InPathOrder`: sorted by path, with entries of the same path as they were listed.
-/

namespace Lockstep

namespace Text

/-- Sorting leaves items with the same key in the order they came. -/
theorem filter_sortBy {α : Type} (key : α → Text) (items : List α) (k : Text) :
    (sortBy key items).filter (key · = k) = items.filter (key · = k) := by
  have hsame : (items.filter (key · = k)).Pairwise fun a b => unitsLe (key a) (key b) = true := by
    apply List.pairwise_of_forall_mem_list
    intro a ha b hb
    have hkey : key a = key b := by
      simp only [List.mem_filter, decide_eq_true_eq] at ha hb
      rw [ha.2, hb.2]
    rw [hkey, unitsLe_iff]
    exact List.lt_irrefl _
  have hsublist : (items.filter (key · = k)).Sublist (sortBy key items) := by
    refine List.sublist_mergeSort ?_ ?_ hsame List.filter_sublist
    · intro a b c hab hbc
      exact unitsLe_trans hab hbc
    · intro a b
      exact unitsLe_total (key a) (key b)
  have hlength := ((sortBy_perm key items).filter (key · = k)).length_eq
  have hfilter := hsublist.filter (key · = k)
  rw [List.filter_filter] at hfilter
  simp only [Bool.and_self] at hfilter
  exact (hfilter.eq_of_length hlength.symm).symm

theorem mem_sortedDistinct {t : Text} {items : List Text} :
    t ∈ sortedDistinct items ↔ t ∈ items := by
  rw [sortedDistinct, (sortBy_perm id items.eraseDups).mem_iff, List.mem_eraseDups]

theorem pairwise_sortedDistinct (items : List Text) :
    (sortedDistinct items).Pairwise fun a b => units a < units b := by
  have hnodup : (sortedDistinct items).Nodup :=
    (sortBy_perm id items.eraseDups).nodup_iff.2 (nodup_eraseDups items)
  refine (pairwise_sortBy id items.eraseDups).imp₂ ?_ hnodup
  intro a b hle hne
  by_contra hlt
  exact hne (unitsLe_antisymm hle (unitsLe_iff.2 hlt))

end Text

namespace Git

/-! ## Listings -/

/-- A path that can stand in a listing. -/
structure ListedPath where
  text : Text
  no_nul : '\x00' ∉ text

/-- What a listing can say of a path. -/
inductive Mark where
  | added
  | deleted
  | modified
  /-- A file became a link, or something else of another type. -/
  | retyped
  deriving DecidableEq, Repr

/-- The letter that stands for a mark. -/
def Mark.letter : Mark → Char
  | added => 'A'
  | deleted => 'D'
  | modified => 'M'
  | retyped => 'T'

/-- The status that is meant. -/
def Mark.status : Mark → ChangeStatus
  | added => .added
  | deleted => .deleted
  | modified | retyped => .modified

/-- A path of a listing, with its mark. -/
structure ListedChange where
  mark : Mark
  path : ListedPath

/-- The changed file that is meant. -/
def ListedChange.file (c : ListedChange) : ChangedFile := ⟨c.path.text, c.mark.status⟩

/-- What all listings say. -/
structure Listings where
  /-- What changed, as far as it is tracked. -/
  changes : List ListedChange
  /-- The paths of the working copy that are not tracked. -/
  untracked : List ListedPath
  /-- The paths of the new tree. -/
  tree : List ListedPath
  /-- The paths of the index, and those that are not tracked. -/
  indexed : List ListedPath
  /-- The paths of the index that are gone from the working copy. -/
  gone : List ListedPath

namespace Listings

/-- The changed files that are meant, as they are listed.  Paths that are not tracked count only if
the change ends in the working copy. -/
def changed (l : Listings) (range : RevisionRange) : List ChangedFile :=
  l.changes.map (·.file) ++
    if range.new.isNone then l.untracked.map fun path => ⟨path.text, .added⟩ else []

/-- A path is one of the later snapshot. -/
def Holds (l : Listings) (range : RevisionRange) (path : Text) : Prop :=
  if range.new.isNone then path ∈ l.indexed.map (·.text) ∧ path ∉ l.gone.map (·.text)
  else path ∈ l.tree.map (·.text)

end Listings

/-- The fields of a listing of changes. -/
def changeFields (changes : List ListedChange) : List Text :=
  changes.flatMap fun c => [[c.mark.letter], c.path.text]

/-- A listing of paths, as printed. -/
def pathListing (paths : List ListedPath) : Text := Text.terminated (paths.map (·.text))

namespace Repository

variable (r : Repository)

/-- Asks for the paths that are not tracked. -/
def untrackedCommand : Command where
  arguments := words ["ls-files", "--others", "--exclude-standard", "-z"]
  directory := r.directory

/-- Asks for the paths of a tree. -/
def treeCommand (tree : Text) : Command where
  arguments := words ["ls-tree", "-r", "--name-only", "-z"] ++ [tree]
  directory := r.directory

/-- Asks for the paths of the index, and for those that are not tracked. -/
def indexCommand : Command where
  arguments := words ["ls-files", "--cached", "--others", "--exclude-standard", "-z"]
  directory := r.directory

/-- Asks for the paths of the index that are gone from the working copy. -/
def goneCommand : Command where
  arguments := words ["ls-files", "--deleted", "-z"]
  directory := r.directory

/-- The host prints these listings, as far as the repository asks for them. -/
structure Lists (host : Host) (l : Listings) : Prop where
  changes : Prints host r.statusCommand (Text.terminated (changeFields l.changes))
  untracked : r.newTree = none → Prints host r.untrackedCommand (pathListing l.untracked)
  tree : ∀ tree, r.newTree = some tree → Prints host (r.treeCommand tree) (pathListing l.tree)
  indexed : r.newTree = none → Prints host r.indexCommand (pathListing l.indexed)
  gone : r.newTree = none → Prints host r.goneCommand (pathListing l.gone)

end Repository

/-! ## Fields -/

theorem pairUp_changeFields (changes : List ListedChange) :
    pairUp (changeFields changes) = changes.map (·.file) := by
  rw [changeFields, pairUp_flatMap]
  apply List.map_congr_left
  intro c _
  rw [ListedChange.file]
  cases c.mark <;> rfl

theorem nul_not_mem_changeFields (changes : List ListedChange) :
    ∀ t ∈ changeFields changes, '\x00' ∉ t := by
  intro t ht
  obtain ⟨c, -, ht⟩ := List.mem_flatMap.1 ht
  rcases List.mem_pair.1 ht with rfl | rfl
  · cases c.mark <;> decide
  · exact c.path.no_nul

theorem nul_not_mem_paths (paths : List ListedPath) : ∀ t ∈ paths.map (·.text), '\x00' ∉ t := by
  intro t ht
  obtain ⟨path, -, rfl⟩ := List.mem_map.1 ht
  exact path.no_nul

/-! ## Answers -/

/-- Files in the order of their paths, with entries of the same path as they are listed. -/
structure InPathOrder (listed files : List ChangedFile) : Prop where
  perm : files.Perm listed
  sorted : files.Pairwise fun a b => ¬ Text.units b.path < Text.units a.path
  stable : ∀ path, files.filter (·.path = path) = listed.filter (·.path = path)

theorem inPathOrder_sortBy (listed : List ChangedFile) :
    InPathOrder listed (Text.sortBy (·.path) listed) where
  perm := Text.sortBy_perm _ listed
  sorted := by
    refine (Text.pairwise_sortBy (·.path) listed).imp ?_
    intro a b hle
    exact Text.unitsLe_iff.1 hle
  stable := Text.filter_sortBy _ listed

namespace Repository

variable {host : Host} {r : Repository} {l : Listings}

theorem changedFiles_upToTree {tree : Text} (hlists : r.Lists host l)
    (hnew : r.newTree = some tree) :
    (r.changedFiles host ()).outcome = .ok (Text.sortBy (·.path) (l.changes.map (·.file))) := by
  have hchanges := outcome_list (nul_not_mem_changeFields l.changes) hlists.changes
  refine (Run.outcome_bind_of_ok hchanges).trans ?_
  rw [hnew]
  show Except.ok (Text.sortBy (·.path) (pairUp _ ++ ChangeSource.untracked [])) = _
  rw [pairUp_changeFields, ChangeSource.untracked, List.map_nil, List.append_nil]

theorem changedFiles_upToWorkingCopy (hlists : r.Lists host l) (hnew : r.newTree = none) :
    (r.changedFiles host ()).outcome =
      .ok (Text.sortBy (·.path)
        (l.changes.map (·.file) ++ l.untracked.map fun path => ⟨path.text, .added⟩)) := by
  have hchanges := outcome_list (nul_not_mem_changeFields l.changes) hlists.changes
  have huntracked := outcome_list (nul_not_mem_paths l.untracked) (hlists.untracked hnew)
  refine (Run.outcome_bind_of_ok hchanges).trans ?_
  rw [hnew]
  refine (Run.outcome_bind_of_ok huntracked).trans ?_
  show Except.ok (Text.sortBy (·.path) (pairUp _ ++ ChangeSource.untracked _)) = _
  rw [pairUp_changeFields, ChangeSource.untracked, List.map_map]
  rfl

theorem treeFiles_upToTree {tree : Text} (hlists : r.Lists host l) (hnew : r.newTree = some tree) :
    (r.treeFiles host ()).outcome = .ok (Text.sortedDistinct (l.tree.map (·.text))) := by
  have htree := outcome_list (nul_not_mem_paths l.tree) (hlists.tree tree hnew)
  unfold treeFiles
  rw [hnew]
  exact Run.outcome_bind_of_ok htree

theorem treeFiles_upToWorkingCopy (hlists : r.Lists host l) (hnew : r.newTree = none) :
    (r.treeFiles host ()).outcome =
      .ok (Text.sortedDistinct
        ((l.indexed.map (·.text)).filter (!(l.gone.map (·.text)).contains ·))) := by
  have hindexed := outcome_list (nul_not_mem_paths l.indexed) (hlists.indexed hnew)
  have hgone := outcome_list (nul_not_mem_paths l.gone) (hlists.gone hnew)
  unfold treeFiles
  rw [hnew]
  refine (Run.outcome_bind_of_ok hindexed).trans ?_
  exact Run.outcome_bind_of_ok hgone

/-- A repository answers what the listings say, with nothing lost and nothing made up.  The changed
files are the marked paths with their statuses and, only if the change ends in the working copy,
those that are not tracked as new ones; they come in the order of their paths, and entries of the
same path as they are listed.  The files of the later snapshot are the paths of the tree, or those
of the working copy that are not gone from it, each once and in ascending order. -/
theorem answers_listings {directory : Text} {range : RevisionRange}
    (hopen : (Repository.open host directory range ()).outcome = .ok r) (hlists : r.Lists host l) :
    (∃ files, (r.changedFiles host ()).outcome = .ok files ∧ InPathOrder (l.changed range) files) ∧
      ∃ files, (r.treeFiles host ()).outcome = .ok files ∧
        files.Pairwise (fun a b => Text.units a < Text.units b) ∧
        ∀ path, path ∈ files ↔ l.Holds range path := by
  have hopened := opened_of_open hopen
  unfold Listings.changed Listings.Holds
  cases hrange : range.new with
  | none =>
    have hnew := (hopened.working hrange).1
    refine ⟨⟨_, changedFiles_upToWorkingCopy hlists hnew, inPathOrder_sortBy _⟩,
      _, treeFiles_upToWorkingCopy hlists hnew, Text.pairwise_sortedDistinct _, fun path => ?_⟩
    rw [Text.mem_sortedDistinct]
    simp
  | some revision =>
    obtain ⟨tree, hnew, -⟩ := hopened.target revision hrange
    rw [Option.isNone_some, if_neg Bool.false_ne_true, List.append_nil]
    refine ⟨⟨_, changedFiles_upToTree hlists hnew, inPathOrder_sortBy _⟩,
      _, treeFiles_upToTree hlists hnew, Text.pairwise_sortedDistinct _, fun path => ?_⟩
    rw [Text.mem_sortedDistinct, if_neg Bool.false_ne_true]

end Repository

/-- A file was taken out of the index and is still there, another one became a link, and a third one
is listed twice because two branches of it are not merged. -/
def unmergedListings : Listings where
  changes :=
    [⟨.retyped, "～".toList, by decide⟩, ⟨.deleted, "kept".toList, by decide⟩,
      ⟨.modified, "😀".toList, by decide⟩]
  untracked := [⟨"kept".toList, by decide⟩]
  tree := []
  indexed :=
    [⟨"～".toList, by decide⟩, ⟨"😀".toList, by decide⟩, ⟨"😀".toList, by decide⟩,
    ⟨"kept".toList, by decide⟩]
  gone := [⟨"～".toList, by decide⟩]

/-- A repository that is compared with its working copy. -/
def workingRepository : Repository where
  directory := "/w".toList
  root := some "/w".toList
  oldTree := "t0".toList
  newTree := none
  exemptPatterns := []

/-- What it takes to open the repository, and its listings. -/
def unmergedHost : Host :=
  script
    [ ⟨.mentions (words ["--is-bare-repository"]), printed "false\n".toList⟩,
      ⟨.mentions (words ["--show-toplevel"]), printed "/w\n".toList⟩,
      ⟨.mentions (words ["rev-parse"]), printed "t0\n".toList⟩,
      ⟨.mentions (words ["--name-status"]), printed "T\x00～\x00D\x00kept\x00M\x00😀\x00".toList⟩,
      ⟨.mentions (words ["--cached"]), printed "～\x00😀\x00😀\x00kept\x00".toList⟩,
      ⟨.mentions (words ["--others"]), printed "kept\x00".toList⟩,
      ⟨.mentions (words ["--deleted"]), printed "～\x00".toList⟩ ]

/-- The file that was taken out of the index is deleted first and then new. -/
theorem Repository.answers_listings_unmerged :
    (Repository.open unmergedHost "/w/src".toList {} ()).outcome = .ok workingRepository ∧
      workingRepository.Lists unmergedHost unmergedListings ∧
      (∃ files, (workingRepository.changedFiles unmergedHost ()).outcome = .ok files ∧
        files.filter (·.path = "kept".toList) =
          [⟨"kept".toList, .deleted⟩, ⟨"kept".toList, .added⟩] ∧
        InPathOrder [⟨"～".toList, .modified⟩, ⟨"kept".toList, .deleted⟩, ⟨"😀".toList, .modified⟩,
          ⟨"kept".toList, .added⟩] files) ∧
      ∃ files, (workingRepository.treeFiles unmergedHost ()).outcome = .ok files ∧
        files.Pairwise (fun a b => Text.units a < Text.units b) ∧
        ∀ path, path ∈ files ↔ unmergedListings.Holds {} path := by
  have hopen : (Repository.open unmergedHost "/w/src".toList {} ()).outcome =
      .ok workingRepository := by
    decide +kernel
  have hlists : workingRepository.Lists unmergedHost unmergedListings := by
    refine ⟨⟨[], none, ?_⟩, fun _ => ⟨[], none, ?_⟩, ?_, fun _ => ⟨[], none, ?_⟩,
      fun _ => ⟨[], none, ?_⟩⟩
    · decide +kernel
    · decide +kernel
    · intro tree hnew
      cases hnew
    · decide +kernel
    · decide +kernel
  obtain ⟨⟨files, hfiles, horder⟩, htree⟩ := answers_listings hopen hlists
  refine ⟨hopen, hlists, ⟨files, hfiles, ?_, horder⟩, htree⟩
  rw [horder.stable]
  decide +kernel

end Git

end Lockstep
