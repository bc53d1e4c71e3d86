import Lockstep.Check.Scan
import Lockstep.Proofs.Block.Names
import Lockstep.Proofs.Block.RoundTrip
import Lockstep.Proofs.WholeCheck

/-!
# Files that a scan finds clean

A scan looks at the markers of whole files, and a check looks up single blocks by
their names.  This file shows that a file which a scan came to without reporting
anything about it serves every search by name (`scan_clean_names`): its markers
are in order, and a name means one block or none.

* `findings_eq_nil_of_unmarked`: a text without the two words holds no block and no
  error, so that passing over it misses nothing.
* `Check.reported_scanFilesBy`: what is wrong with a file is reported as soon as the
  scan comes to it, whatever happens later.
* `Check.malformed_of_checkNamed`: errors in the markers of a file that a demand leads
  to come from a search that met them.
-/

namespace Lockstep

/-! ## Texts without markers -/

/-- The first line of a text is a start of it, and every other line is a part of it. -/
theorem Text.lines_parts (t : Text) :
    ∃ first others, lines t = first :: others ∧ first <+: t ∧ ∀ l ∈ others, l <:+: t := by
  fun_induction lines t with
  | case1 => exact ⟨[], [], rfl, List.prefix_rfl, by simp⟩
  | case2 rest ih =>
    obtain ⟨first, others, heq, hfirst, hothers⟩ := ih
    refine ⟨[], _, rfl, List.nil_prefix, ?_⟩
    rw [heq, List.forall_mem_cons]
    exact ⟨hfirst.isInfix.trans (List.suffix_cons _ _).isInfix,
      fun l hl => (hothers l hl).trans (List.suffix_cons _ _).isInfix⟩
  | case3 rest ih =>
    obtain ⟨first, others, heq, hfirst, hothers⟩ := ih
    have hrest : rest <:+: '\r' :: '\n' :: rest := ⟨['\r', '\n'], [], by simp⟩
    refine ⟨[], _, rfl, List.nil_prefix, ?_⟩
    rw [heq, List.forall_mem_cons]
    exact ⟨hfirst.isInfix.trans hrest, fun l hl => (hothers l hl).trans hrest⟩
  | case4 c rest _ _ ih =>
    obtain ⟨first, others, heq, hfirst, hothers⟩ := ih
    refine ⟨c :: first, others, by rw [heq]; rfl, List.cons_prefix_cons.2 ⟨rfl, hfirst⟩, ?_⟩
    exact fun l hl => (hothers l hl).trans (List.suffix_cons _ _).isInfix

theorem Text.isInfix_of_mem_fileLines {t l : Text} (h : l ∈ fileLines t) : l <:+: t := by
  have hmem : l ∈ lines t := by
    unfold fileLines dropEmptyLast at h
    split at h
    · exact List.dropLast_subset _ h
    · exact h
  obtain ⟨first, others, heq, hfirst, hothers⟩ := lines_parts t
  rw [heq] at hmem
  rcases List.mem_cons.1 hmem with rfl | hmem
  · exact hfirst.isInfix
  · exact hothers l hmem

/-- Lines without the words are passed over. -/
theorem Scan.advance_eq_none {lines : List Text}
    (h : ∀ l ∈ lines, Text.includes Marker.opening l = false ∧
      Text.includes Marker.closing l = false)
    (here : Nat) : advance here [] lines = none := by
  induction lines generalizing here with
  | nil => rfl
  | cons line lines ih =>
    obtain ⟨⟨hopening, hclosing⟩, hlines⟩ := List.forall_mem_cons.1 h
    obtain ⟨rest, hread, hafter⟩ := Marker.readOpening_of_not_includes hopening hclosing
    rw [advance, hread]
    simpa [hafter, openOn] using ih hlines (here + 1)

/-- Without the words there is nothing to find. -/
theorem findings_eq_nil_of_unmarked {text : Text} (h : Check.hasMarker text = false) :
    findings text = [] := by
  rw [Check.hasMarker, Bool.or_eq_false_iff] at h
  have hlines : ∀ l ∈ text.fileLines,
      Text.includes Marker.opening l = false ∧ Text.includes Marker.closing l = false := by
    intro l hl
    have hpart := Text.isInfix_of_mem_fileLines hl
    exact ⟨Text.includes_part hpart h.1, Text.includes_part hpart h.2⟩
  have hnext : (Scan.start text).next? = none := Scan.advance_eq_none hlines 0
  rw [findings, Scan.findings_eq, hnext]

namespace Check

open Session

/-! ## Errors that a demand leads to -/

section Demands

variable {change : Change} {disk : FileTree} {d : Demand} {name path : Text} {e : BlockError}
  {s : SessionState} {vs : List Violation}

/-- The place where the markers of a file are read for a demand, and the search that meets errors in
them. -/
def MeetsErrors (change : Change) (disk : FileTree) (name path : Text) (e : BlockError) : Prop :=
  ∃ place text errors, change.locate path = .ok place ∧ disk.read place = .ok text ∧
    lookup name (findings text) = .broken errors ∧ e ∈ errors

theorem malformed_of_checkTarget {target : Text}
    (h : (checkTarget change disk d name target s).outcome = .ok vs) (he : .malformed path e ∈ vs) :
    MeetsErrors change disk name path e := by
  obtain ⟨place, hplace, h⟩ := Run.exists_of_bind_eq_ok h
  have hlocate : change.locate target = .ok place := by
    rw [ofExcept_apply] at hplace
    cases hl : change.locate target with
    | error why => rw [hl] at hplace; cases hplace
    | ok p => rw [hl] at hplace; cases hplace; rfl
  cases hread : disk.read place with
  | error fault =>
    rw [hread] at h
    cases h
    simp at he
  | ok text =>
    rw [hread] at h
    dsimp only at h
    cases hlook : lookup name (findings text) with
    | broken errors =>
      rw [hlook] at h
      cases h
      obtain ⟨e', he', heq⟩ := List.mem_map.1 he
      cases heq
      exact ⟨place, text, errors, hlocate, hread, hlook, he'⟩
    | absent =>
      rw [hlook] at h
      cases h
      simp at he
    | found b =>
      rw [hlook] at h
      obtain ⟨touched, -, h⟩ := Run.exists_of_bind_eq_ok h
      cases h
      cases touched <;> simp at he

theorem malformed_of_checkTargets {targets : List Text}
    (h : (checkTargets change disk d name targets s).outcome = .ok vs)
    (he : .malformed path e ∈ vs) : MeetsErrors change disk name path e := by
  induction targets generalizing s vs with
  | nil =>
    cases h
    cases he
  | cons target targets ih =>
    obtain ⟨first, hfirst, h⟩ := Run.exists_of_bind_eq_ok h
    obtain ⟨more, hmore, h⟩ := Run.exists_of_bind_eq_ok h
    cases h
    rcases List.mem_append.1 he with he | he
    · exact malformed_of_checkTarget hfirst he
    · exact ih hmore he

/-- Errors in the markers of a file are only found where a search for the name meets them. -/
theorem malformed_of_checkNamed (h : (checkNamed change disk d name s).outcome = .ok vs)
    (he : .malformed path e ∈ vs) : MeetsErrors change disk name path e := by
  obtain ⟨found, -, h⟩ := Run.exists_of_bind_eq_ok h
  dsimp only at h
  split at h
  · exact malformed_of_checkTargets h he
  · split at h
    · cases h
      cases he
    · obtain ⟨v, hv, h⟩ := Run.exists_of_bind_eq_ok h
      obtain ⟨existing, -, hv⟩ := Run.exists_of_bind_eq_ok hv
      cases h
      cases hv
      rw [List.mem_singleton] at he
      split at he <;> cases he

end Demands

/-! ## What a scan reports -/

/-- Faults that a scan passes over. -/
def PassedOver : FileFault → Prop
  | .missing .. | .isDirectory => True
  | _ => False

/-- A file that does not stop a scan: it can be read, or it is passed over. -/
def Passable (disk : FileTree) (root file : Text) : Prop :=
  ∀ fault, disk.read (Path.join root file) = .error fault → PassedOver fault

/-- What a scan finds wrong with the markers of a file. -/
def scanned (disk : FileTree) (root file : Text) : List Violation :=
  match disk.read (Path.join root file) with
  | .ok text => if hasMarker text then scanText file text else []
  | .error _ => []

section Scanning

variable {change : Change} {disk : FileTree} {root : Text} (hroot : change.source.root = some root)
  (verbose : Bool)

include hroot

theorem reports_scanFileBy {file : Text} (h : Passable disk root file) :
    Reports change (scanFileBy hasMarker change disk verbose file) () (scanned disk root file) := by
  have hplace : Settles change (ofExcept (change.locate file)) (.ok (Path.join root file)) := by
    rw [Change.locate, hroot]
    exact settles_ofExcept _
  refine (alike_locate rfl file).reports_bind hplace ?_
  unfold scanned
  cases hread : disk.read (Path.join root file) with
  | error fault =>
    cases fault with
    | missing access path => exact reports_progress verbose _
    | isDirectory => exact reports_progress verbose _
    | notDirectory access path => exact (h _ hread).elim
    | nameTooLong access path => exact (h _ hread).elim
  | ok text =>
    dsimp only
    cases hasMarker text with
    | true => exact (reports_progress verbose _).bind (reports_reportAll _)
    | false => exact reports_pure ()

/-- If nothing stops a scan before it comes to a file, it reports what is wrong with the file. -/
theorem reported_scanFilesBy {before : List Text} (hbefore : ∀ f ∈ before, Passable disk root f)
    {file : Text} (hfile : Passable disk root file) (behind : List Text) {s : SessionState}
    (hs : s.memo.Faithful change.source) (hnone : s.allowance = none) {v : Violation}
    (hv : v ∈ scanned disk root file) :
    v ∈ reported
      (scanFilesBy hasMarker change disk verbose (before ++ file :: behind) s).log := by
  induction before generalizing s with
  | nil =>
    obtain ⟨hout, -, -, hlog⟩ := reports_scanFileBy hroot verbose hfile s hs hnone
    rw [List.nil_append, scanFilesBy, Run.bind_of_ok hout, reported_append, hlog]
    exact List.mem_append_left _ hv
  | cons f before ih =>
    obtain ⟨hf, hbefore⟩ := List.forall_mem_cons.1 hbefore
    obtain ⟨hout, hmemo, hallow, -⟩ := reports_scanFileBy hroot verbose hf s hs hnone
    rw [List.cons_append, scanFilesBy, Run.bind_of_ok hout, reported_append]
    exact List.mem_append_right _ (ih hbefore hmemo hallow)

end Scanning

/-- The files of a listing that a scan goes through: those that are asked for, unless there is a
pattern that cannot be read. -/
def chosenFiles (patterns tree : List Text) : Except Failure (List Text) :=
  (PatternSet.compile patterns).map fun _ => tree.filter fun file => AskedFor patterns file

theorem settles_treePaths_chosen {change : Change} {tree : List Text} (patterns : List Text)
    (htree : (change.source.treeFiles ()).outcome = .ok tree) :
    Settles change (treePaths change patterns) (chosenFiles patterns tree) := by
  refine (settles_tree htree).andThen ?_
  by_cases hnil : patterns = []
  · subst hnil
    have hall : chosenFiles [] tree = .ok tree :=
      congrArg Except.ok (List.filter_eq_self.2 fun _ _ => decide_eq_true (.inl rfl))
    rw [hall]
    exact settles_pure tree
  · rw [if_neg (by simpa using hnil), chosenFiles]
    cases hset : PatternSet.compile patterns with
    | error why => exact (settles_ofExcept (.error why)).bind_error
    | ok set =>
      have hsame : tree.filter set.selects = tree.filter fun f => AskedFor patterns f := by
        refine List.filter_congr fun f _ => ?_
        rw [Bool.eq_iff_iff, decide_eq_true_eq, AskedFor, PatternSet.includes_iff hset]
        simp [hnil]
      rw [Except.map, ← hsame]
      exact settles_pure _

theorem chosenFiles_of_asked {patterns : List Text} {file : Text} (h : AskedFor patterns file)
    (tree : List Text) :
    chosenFiles patterns tree = .ok (tree.filter fun f => AskedFor patterns f) := by
  rcases h with rfl | ⟨set, hset, -⟩
  · rfl
  · rw [chosenFiles, hset]
    rfl

/-- A scan goes through the files that are asked for. -/
theorem settles_treePaths_asked {change : Change} {tree patterns : List Text} {file : Text}
    (htree : (change.source.treeFiles ()).outcome = .ok tree) (hasked : AskedFor patterns file) :
    Settles change (treePaths change patterns)
      (.ok (tree.filter fun f => AskedFor patterns f)) := by
  rw [← chosenFiles_of_asked hasked tree]
  exact settles_treePaths_chosen patterns htree

/-! ## Clean files -/

/-- A violation that finds fault with the markers of a file. -/
def Blames (file : Text) : Violation → Prop
  | .malformed path _ | .duplicate path _ => path = file
  | _ => False

theorem blames_of_mem_scanText {file text : Text} {v : Violation} (h : v ∈ scanText file text) :
    Blames file v := by
  unfold scanText at h
  rcases List.mem_append.1 h with h | h
  · obtain ⟨e, -, rfl⟩ := List.mem_map.1 h
    rfl
  · obtain ⟨d, -, rfl⟩ := List.mem_map.1 h
    rfl

/-- A scan that came to a file, in which this text stands, and found no fault with its markers. -/
structure FoundClean (change : Change) (disk : FileTree) (verbose : Bool)
    (tree patterns : List Text)
    (root file text : Text) : Prop where
  root_eq : change.source.root = some root
  tree_eq : (change.source.treeFiles ()).outcome = .ok tree
  listed : file ∈ tree
  asked : AskedFor patterns file
  read_eq : disk.read (Path.join root file) = .ok text
  /-- Nothing stopped the scan before it came to the file.  A scan that runs to its end is stopped
  by nothing. -/
  reached : ∀ f ∈ (tree.filter fun f => AskedFor patterns f).takeWhile (· ≠ file),
    Passable disk root f
  quiet : ∀ v ∈ reported (runUpTo none (scanTree change disk verbose patterns)).log, ¬ Blames file v

/-- A file that serves every search by name: its markers are in order, no name is given twice, a
search for a name finds the only block of this name unless there is none, and a demand that leads to
the file never meets errors in its markers. -/
structure Unambiguous (disk : FileTree) (root file text : Text) : Prop where
  sound : ∀ errors, Finding.broken errors ∉ findings text
  nodup : (blockNames (foundBlocks (findings text))).Nodup
  search : ∀ name,
    (lookup name (findings text) = .absent ∧
      (foundBlocks (findings text)).filter (·.name = some name) = []) ∨
    ∃ b, lookup name (findings text) = .found b ∧
      (foundBlocks (findings text)).filter (·.name = some name) = [b]
  demand : ∀ (change : Change), change.source.root = some root → ∀ (d : Demand) (name : Text)
    (s : SessionState) (vs : List Violation), (checkNamed change disk d name s).outcome = .ok vs →
    ∀ e, .malformed file e ∉ vs

/-- What a scan finds in a file is what it reports about it. -/
theorem FoundClean.scanned_eq_nil {change : Change} {disk : FileTree} {verbose : Bool}
    {tree patterns : List Text} {root file text : Text}
    (h : FoundClean change disk verbose tree patterns root file text) :
    scanned disk root file = [] := by
  have hselected : file ∈ tree.filter fun f => AskedFor patterns f :=
    List.mem_filter.2 ⟨h.listed, decide_eq_true h.asked⟩
  obtain ⟨before, behind, hsplit, hfresh⟩ := List.eq_append_cons_of_mem hselected
  have hbefore : ∀ f ∈ before, Passable disk root f := by
    have htake : (before ++ file :: behind).takeWhile (· ≠ file) = before := by
      have hother : ∀ f ∈ before, decide (f ≠ file) = true := by
        intro f hf
        refine decide_eq_true fun heq => hfresh ?_
        rwa [heq] at hf
      rw [List.takeWhile_append_of_pos hother]
      simp
    have hreached := h.reached
    rwa [hsplit, htake] at hreached
  have hfile : Passable disk root file := by
    intro fault hfault
    rw [h.read_eq] at hfault
    cases hfault
  have hpaths := settles_treePaths_asked h.tree_eq h.asked
  obtain ⟨hout, hmemo, hallow⟩ := hpaths {} (Memo.faithful_empty _)
  refine List.eq_nil_iff_forall_not_mem.2 fun v hv => ?_
  refine h.quiet v ?_ ?_
  · show v ∈ reported (scanTree change disk verbose patterns {}).log
    rw [scanTree, scanTreeBy, Run.bind_of_ok hout, reported_append, hsplit]
    exact List.mem_append_right _
      (reported_scanFilesBy h.root_eq verbose hbefore hfile behind hmemo hallow hv)
  · rw [scanned, h.read_eq] at hv
    dsimp only at hv
    split at hv
    · exact blames_of_mem_scanText hv
    · cases hv

/-- A text in which a scan finds nothing wrong has sound markers and distinct names. -/
theorem sound_of_scanned_eq_nil {disk : FileTree} {root file text : Text}
    (hread : disk.read (Path.join root file) = .ok text) (h : scanned disk root file = []) :
    (∀ errors, Finding.broken errors ∉ findings text) ∧
      (blockNames (foundBlocks (findings text))).Nodup := by
  rw [scanned, hread] at h
  dsimp only at h
  cases hmarker : hasMarker text with
  | false =>
    rw [findings_eq_nil_of_unmarked hmarker]
    exact ⟨fun _ => List.not_mem_nil, List.nodup_nil⟩
  | true =>
    rw [hmarker, if_pos rfl, scanText] at h
    simp only [List.append_eq_nil_iff, List.map_eq_nil_iff] at h
    obtain ⟨hsound, hblocks⟩ := blocksAndErrors_of_sound (fun _ => findings_broken_ne_nil) h.1
    refine ⟨hsound, ?_⟩
    rw [← hblocks]
    exact (duplicateNames_eq_nil_iff _).1 h.2

/-- A file that a scan finds clean is unambiguous for every check.  And of any blocks, as many names
are reported as there are more names than distinct ones, their number is given, and none is reported
exactly if all names are distinct. -/
theorem scan_clean_names :
    (∀ (change : Change) (disk : FileTree) (verbose : Bool) (tree patterns : List Text)
      (root file text : Text), FoundClean change disk verbose tree patterns root file text →
      Unambiguous disk root file text) ∧
    ∀ blocks : List Block,
      (duplicateNames blocks).length =
          (blockNames blocks).length - (blockNames blocks).eraseDups.length ∧
        (checkNames blocks).count = (duplicateNames blocks).length ∧
        ((duplicateNames blocks).length = 0 ↔ (blockNames blocks).Nodup) := by
  refine ⟨?_, fun blocks => ⟨?_, count_checkNames blocks, ?_⟩⟩
  · intro change disk verbose tree patterns root file text h
    obtain ⟨hsound, hnodup⟩ := sound_of_scanned_eq_nil h.read_eq h.scanned_eq_nil
    refine ⟨hsound, hnodup, lookup_of_nodup hsound hnodup, ?_⟩
    intro other hroot d name s vs hvs e he
    obtain ⟨place, text', errors, hplace, hread, hlook, -⟩ := malformed_of_checkNamed hvs he
    rw [Change.locate, hroot] at hplace
    cases hplace
    rw [h.read_eq] at hread
    cases hread
    exact hsound errors (broken_mem_of_lookup hlook)
  · have := length_duplicateNames blocks
    omega
  · rw [List.length_eq_zero_iff, duplicateNames_eq_nil_iff]

/-- A tree of two files, of which the first is gone. -/
def nestedSource : ChangeSource where
  root := some "/repo".toList
  exemptPatterns := []
  changedFiles := pure []
  filePatch := fun _ => pure none
  treeFiles := pure [['a'], ['b']]

/-- A block with a name inside one with an empty name, beside one without a name. -/
def nestedText : Text :=
  "# if-changed()\n# if-changed(x)\n# then-change(:x)\n# then-change()\n".toList ++
    "# if-changed\n# then-change()\n".toList

/-- The one file that is there. -/
def nestedDisk : FileTree := .ofFiles "/repo".toList [(['b'], .file nestedText)]

theorem scan_clean_names_nested :
    FoundClean ⟨nestedSource, []⟩ nestedDisk true [['a'], ['b']] [] "/repo".toList
      ['b'] nestedText ∧
      Unambiguous nestedDisk "/repo".toList ['b'] nestedText := by
  have hclean : FoundClean ⟨nestedSource, []⟩ nestedDisk true [['a'], ['b']] [] "/repo".toList ['b']
      nestedText := by
    refine ⟨rfl, rfl, by decide, .inl rfl, by decide, ?_, ?_⟩
    · have hgone : nestedDisk.read (Path.join "/repo".toList ['a']) =
          .error (.missing .opening "/repo/a".toList) := by decide
      have hbefore : ([['a'], ['b']].filter fun f => AskedFor [] f).takeWhile
          (· ≠ ['b']) = [['a']] := by
        decide
      rw [hbefore]
      intro f hf fault hfault
      rw [List.mem_singleton.1 hf, hgone] at hfault
      cases hfault
      exact trivial
    · have hquiet : reported
          (runUpTo none (scanTree ⟨nestedSource, []⟩ nestedDisk true [])).log = [] := by
            decide +kernel
      rw [hquiet]
      exact fun v hv => absurd hv List.not_mem_nil
  exact ⟨hclean, scan_clean_names.1 _ _ _ _ _ _ _ _ hclean⟩

end Check

end Lockstep
