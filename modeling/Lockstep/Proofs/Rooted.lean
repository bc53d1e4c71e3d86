import Lockstep.Proofs.Glob.Literal

/-!
# Patterns of obligations, seen from the root

An obligation without a pattern is about the file that it stands in, and a name is
about the file of this name beside it.  The path of the file becomes part of the
pattern, which is then read like any other.

* `rooted_spellings`: a path in the tree can be spelled from the directory of any
  file, climbing out of as many directories as one likes, and from the root.
* `select_rooted`: what is meant is selected, with what lies below it and nothing
  else, if its path spells itself as a pattern (`Pattern.Literal`).
* `select_rooted_bracket`: a path that does not may select nothing: a file called
  `a[b].ts` is not found by its own path.
-/

namespace Lockstep

namespace Check

open Session

/-! ## Resolving -/

/-- What starts neither as an exclusion nor at the root is relative to the directory of the file. -/
theorem rooted_relative {file pattern : Text} (hne : pattern ≠ [])
    (hslash : pattern.head? ≠ some '/') (hmark : pattern.head? ≠ some '!') :
    rooted file pattern = Path.join (Path.directory file) pattern := by
  obtain ⟨c, rest, rfl⟩ := List.exists_cons_of_ne_nil hne
  rw [List.head?_cons, ne_eq, Option.some.injEq] at hslash hmark
  simp [rooted, hslash, hmark]

/-- However many slashes stand before it, a path from the root is what it is. -/
theorem rooted_slashes (file : Text) (n : Nat) {path : Text} (h : path.head? ≠ some '/') :
    rooted file (List.replicate (n + 1) '/' ++ path) = path := by
  show Text.dropStart '/' (List.replicate n '/' ++ path) = path
  have hslashes : ∀ c ∈ List.replicate n '/', decide (c = '/') = true :=
    fun c hc => decide_eq_true (List.eq_of_mem_replicate hc)
  rw [Text.dropStart, List.dropWhile_append_of_pos hslashes]
  cases path with
  | nil => rfl
  | cons c rest =>
    rw [List.head?_cons, ne_eq, Option.some.injEq] at h
    exact List.dropWhile_cons_of_neg (by simpa using h)

/-- A name is looked for beside the file. -/
theorem rooted_name (dir : List FileName) (file n : FileName) (h : n.text.head? ≠ some '!') :
    rooted (Path.ofNames (dir ++ [file])) n.text = Path.ofNames (dir ++ [n]) := by
  have hslash : n.text.head? ≠ some '/' := Path.head?_ofNames (List.cons_ne_nil n [])
  rw [rooted_relative n.ne_nil hslash h, Path.join_directory]

/-- A path in the tree can be spelled from the directory of a file: out of the directories behind
the first `k` names, which lead both to the file and to the path, and down the rest of the path.  It
is found so unless the spelling looks like an exclusion, and behind a reference to the directory
itself it is found always.  It is found from the root as well, however many slashes say that this is
meant. -/
theorem rooted_spellings (dir : List FileName) (file : FileName) (path : List FileName) (k : Nat)
    (hshared : path.take k <+: dir) (hk : k < path.length) :
    let here := Path.ofNames (dir ++ [file])
    let way := Path.climb (dir.length - k) ++ Path.ofNames (path.drop k)
    (way.head? ≠ some '!' → rooted here way = Path.ofNames path) ∧
      rooted here ('.' :: '/' :: way) = Path.ofNames path ∧
      ∀ n, rooted here (List.replicate (n + 1) '/' ++ Path.ofNames path) = Path.ofNames path := by
  intro here way
  obtain ⟨more, hdir⟩ := hshared
  have hpath : path ≠ [] := List.ne_nil_of_length_pos (Nat.zero_lt_of_lt hk)
  have hrest : path.drop k ≠ [] := by
    intro hnil
    exact absurd (List.drop_eq_nil_iff.1 hnil) (Nat.not_le.2 hk)
  have hmore : dir.length - k = more.length := by
    rw [← hdir, List.length_append, List.length_take, Nat.min_eq_left (Nat.le_of_lt hk),
      Nat.add_sub_cancel_left]
  have hne : way ≠ [] := List.append_ne_nil_of_right_ne_nil _ (Path.ofNames_ne_nil hrest)
  refine ⟨fun hmark => ?_, ?_, fun n => rooted_slashes here n (Path.head?_ofNames hpath)⟩
  · have hjoin := Path.join_climb (path.take k) more file hrest
    rw [List.take_append_drop, hdir, ← hmore] at hjoin
    rw [rooted_relative hne (Path.head?_climb_ofNames hrest _) hmark]
    exact hjoin
  · have hjoin := Path.join_dot_climb (path.take k) more file hrest
    rw [List.take_append_drop, hdir, ← hmore] at hjoin
    rw [rooted_relative (List.cons_ne_nil _ _) (by simp) (by simp)]
    exact hjoin

/-- A file two directories down. -/
def spriteDirectory : List FileName :=
  [⟨"assets".toList, by decide, by decide, by decide, by decide⟩,
    ⟨"...".toList, by decide, by decide, by decide, by decide⟩]

/-- The file. -/
def spriteFile : FileName := ⟨"sprite.gen".toList, by decide, by decide, by decide, by decide⟩

/-- A path beside the second directory, whose last name looks like an exclusion. -/
def spritePath : List FileName :=
  [⟨"assets".toList, by decide, by decide, by decide, by decide⟩,
    ⟨"!keep me".toList, by decide, by decide, by decide, by decide⟩]

/-- The path is found by climbing out of one directory or out of both, and from the file in the
first directory it is found behind a reference to that directory. -/
theorem rooted_spellings_sprite :
    spritePath.take 1 <+: spriteDirectory ∧
      rooted "assets/.../sprite.gen".toList "../!keep me".toList = "assets/!keep me".toList ∧
      rooted "assets/.../sprite.gen".toList "../../assets/!keep me".toList =
        "assets/!keep me".toList ∧
      rooted "assets/sprite.gen".toList "./!keep me".toList = "assets/!keep me".toList ∧
      rooted "sprite.gen".toList "///assets/!keep me".toList = "assets/!keep me".toList := by
  have hshared : spritePath.take 1 <+: spriteDirectory := ⟨spriteDirectory.drop 1, rfl⟩
  have hbeside :=
    rooted_spellings (spriteDirectory.take 1) spriteFile spritePath 1 ⟨[], rfl⟩ (by decide)
  have hroot := rooted_spellings [] spriteFile spritePath 0 List.prefix_rfl (by decide)
  refine ⟨hshared, ?_, ?_, hbeside.2.1, hroot.2.2 2⟩
  · exact (rooted_spellings spriteDirectory spriteFile spritePath 1 hshared (by decide)).1
      (by decide)
  · exact (rooted_spellings spriteDirectory spriteFile spritePath 0 List.nil_prefix (by decide)).1
      (by decide)

/-! ## Selecting -/

section Select

variable {change : Change} {listed : List ChangedFile}

/-- The paths of a listing are paths in a tree. -/
def TreePaths (listed : List ChangedFile) : Prop :=
  ∀ f ∈ listed, ∃ ns : List FileName, ns ≠ [] ∧ f.path = Path.ofNames ns

/-- From the paths of a listing, a pattern selects just a path and what lies below it. -/
def SelectsOnly (change : Change) (listed : List ChangedFile) (s : SessionState)
    (pattern path : Text) : Prop :=
  ∃ found : List Text, (select change [pattern] s).outcome = .ok (found.map .path) ∧
    ∀ p, p ∈ found ↔ p ∈ listed.map (·.path) ∧ (p = path ∨ path ++ ['/'] <+: p)

variable (hlisted : (change.source.changedFiles ()).outcome = .ok listed) (htree : TreePaths listed)

include hlisted htree

/-- A pattern that spells a changed path selects this path and what lies below it. -/
theorem settles_select_ofNames {ns : List FileName} (hns : ns ≠ [])
    (hmem : Path.ofNames ns ∈ listed.map (·.path)) (h : Pattern.Literal (Path.ofNames ns)) :
    ∃ found : List Text, Settles change (select change [Path.ofNames ns]) (.ok (found.map .path)) ∧
      ∀ path, path ∈ found ↔ path ∈ listed.map (·.path) ∧
        (path = Path.ofNames ns ∨ Path.ofNames ns ++ ['/'] <+: path) := by
  set t := Path.ofNames ns with ht
  have hmatches : ∀ path ∈ listed.map (·.path),
      (Pattern.Matches t path ↔ path = t ∨ t ++ ['/'] <+: path) := by
    intro path hpath
    obtain ⟨f, hf, rfl⟩ := List.mem_map.1 hpath
    obtain ⟨ps, hps, hf⟩ := htree f hf
    rw [hf]
    exact Pattern.matches_ofNames_iff hns h hps
  have hlast : ∀ path, PatternSet.LastIncludes [t] path ↔ Pattern.Matches t path := by
    intro path
    rw [PatternSet.lastIncludes_cons]
    simp [PatternSet.not_lastIncludes_nil, h.included]
  have hcompiles : Pattern.Compiles t := ⟨_, h.compile_eq hns⟩
  obtain ⟨set, hset⟩ := PatternSet.exists_compile (List.forall_mem_singleton.2 hcompiles)
  set found := ((lastBy (·.path) listed).map (·.path)).filter fun path =>
    PatternSet.LastIncludes [t] path with hfound
  have hfoundMem : ∀ path, path ∈ found ↔ path ∈ listed.map (·.path) ∧
      (path = t ∨ t ++ ['/'] <+: path) := by
    intro path
    rw [hfound, List.mem_filter, mem_lastBy_keys, decide_eq_true_eq, hlast]
    exact and_congr_right fun hpath => hmatches path hpath
  -- the path itself is found, so the pattern is not without a match
  have hself : Pattern.Matches t t := (hmatches t hmem).2 (.inl rfl)
  have hunused : [t].filter (fun u => Check.isExclusion u = true ∨
      ∀ path ∈ found, ¬ Pattern.Matches u path) = [] := by
    have : ∃ path ∈ found, Pattern.Matches t path := ⟨t, (hfoundMem t).2 ⟨hmem, .inl rfl⟩, hself⟩
    simpa [h.included] using this
  have hselections : selections set ((lastBy (·.path) listed).map (·.path)) = found.map .path := by
    rw [selections_eq hset, ← hfound, hunused, List.map_nil, List.append_nil]
  refine ⟨found, ?_, hfoundMem⟩
  rw [← hselections]
  exact settles_select hlisted (List.cons_ne_nil t []) hset

/-- An obligation without a pattern selects the file that it stands in, and a name selects the file
of this name beside it, each with what lies below it and with nothing else, if the path of what is
meant spells itself. -/
theorem select_rooted {s : SessionState} (hs : s.memo.Faithful change.source) (dir : List FileName)
    (file : FileName) :
    let path := fun name : FileName => Path.ofNames (dir ++ [name])
    (path file ∈ listed.map (·.path) → Pattern.Literal (path file) →
      SelectsOnly change listed s (rooted (path file) []) (path file)) ∧
    ∀ name : FileName, name.text.head? ≠ some '!' → path name ∈ listed.map (·.path) →
      Pattern.Literal (path name) →
      SelectsOnly change listed s (rooted (path file) name.text) (path name) := by
  intro path
  have hselects : ∀ name : FileName, path name ∈ listed.map (·.path) → Pattern.Literal (path name) →
      SelectsOnly change listed s (path name) (path name) := by
    intro name hmem hliteral
    obtain ⟨found, hfound, hiff⟩ := settles_select_ofNames hlisted htree (by simp) hmem hliteral
    exact ⟨found, hfound.outcome hs, hiff⟩
  refine ⟨hselects file, fun name hmark hmem hliteral => ?_⟩
  rw [rooted_name dir file name hmark]
  exact hselects name hmem hliteral

end Select

/-- A directory whose name is in parentheses. -/
def groupDirectory : List FileName :=
  [⟨"src".toList, by decide, by decide, by decide, by decide⟩,
    ⟨"(group)".toList, by decide, by decide, by decide, by decide⟩]

/-- A file in it. -/
def groupPage : FileName := ⟨"page.ts".toList, by decide, by decide, by decide, by decide⟩

/-- A name beside the file. -/
def groupName : FileName := ⟨"b+c.ts".toList, by decide, by decide, by decide, by decide⟩

/-- The file, what is beside it, and what is below that. -/
def groupListed : List ChangedFile :=
  [[groupPage], [groupName], [groupName, groupPage]].map fun ns =>
    ⟨Path.ofNames (groupDirectory ++ ns), .modified⟩

/-- A change to all of them. -/
def groupChange : Change where
  source :=
    { root := none
      exemptPatterns := []
      changedFiles := pure groupListed
      filePatch := fun _ => pure none
      treeFiles := pure [] }
  exempt := []

theorem treePaths_groupListed : TreePaths groupListed := by
  intro f hf
  obtain ⟨ns, -, rfl⟩ := List.mem_map.1 hf
  exact ⟨groupDirectory ++ ns, by simp [groupDirectory], rfl⟩

theorem select_rooted_group :
    TreePaths groupListed ∧ Pattern.Literal (Path.ofNames (groupDirectory ++ [groupName])) ∧
      SelectsOnly groupChange groupListed {} (rooted "src/(group)/page.ts".toList [])
        "src/(group)/page.ts".toList ∧
      SelectsOnly groupChange groupListed {} (rooted "src/(group)/page.ts".toList "b+c.ts".toList)
        "src/(group)/b+c.ts".toList := by
  have hpage : Pattern.Literal (Path.ofNames (groupDirectory ++ [groupPage])) :=
    ⟨by decide, by decide, by unfold Pattern.Fits; decide⟩
  have hname : Pattern.Literal (Path.ofNames (groupDirectory ++ [groupName])) :=
    ⟨by decide, by decide, by unfold Pattern.Fits; decide⟩
  have hlisted : (groupChange.source.changedFiles ()).outcome = .ok groupListed := rfl
  have h := select_rooted hlisted treePaths_groupListed (s := {})
    (Memo.faithful_empty groupChange.source) groupDirectory groupPage
  exact ⟨treePaths_groupListed, hname, h.1 (by decide) hpage,
    h.2 groupName (by decide) (by decide) hname⟩

/-- A change to one file, whose name holds a class of characters. -/
def bracketChange : Change where
  source :=
    { root := none
      exemptPatterns := []
      changedFiles := pure [⟨"a[b].ts".toList, .added⟩]
      filePatch := fun _ => pure none
      treeFiles := pure [] }
  exempt := []

/-- A path that is special in a pattern may select nothing, not even itself. -/
theorem select_rooted_bracket :
    (select bracketChange [rooted "a[b].ts".toList []] {}).outcome =
      .ok [.unused "a[b].ts".toList] := by
  decide +kernel

end Check

end Lockstep
