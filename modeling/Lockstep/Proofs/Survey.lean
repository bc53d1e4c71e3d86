import Lockstep.Proofs.CleanScan

/-!
# What a scan comes to

A scan runs in a session, writes about its progress, and passes over texts that hold no
marker.  This file says what comes of it all the same (`Check.surveyTree`): the violations
of one file after the other, up to the first file that stops it.

* `Survey`: the violations that were reported, and the failure behind them, if any.
  Surveys follow one another, and behind a failure nothing comes.
* `Check.comesTo_scanTree`: a scan comes to the survey of its files.
* `Check.scanTree_eq_unabridged`: passing over texts without a marker changes nothing.
  What is reported is what the findings of each file say.
-/

namespace Lockstep

/-! ## Surveys -/

/-- What came of a session: the violations that were reported, and the failure that ended it, unless
it came to its end. -/
structure Survey where
  violations : List Violation
  failure : Option Failure
  deriving DecidableEq

namespace Survey

/-- Nothing was reported, and nothing failed. -/
def clear : Survey := ⟨[], none⟩

/-- Something failed before anything was reported. -/
def stopped (why : Failure) : Survey := ⟨[], some why⟩

/-- One survey and then another one, unless the first ended in a failure. -/
def andThen (a b : Survey) : Survey :=
  match a.failure with
  | none => ⟨a.violations ++ b.violations, b.failure⟩
  | some _ => a

/-- What comes of a value, if there is one. -/
def given {α : Type} (x : Except Failure α) (f : α → Survey) : Survey :=
  match x with
  | .ok a => f a
  | .error why => stopped why

theorem given_bind {α β : Type} (x : Except Failure α) (g : α → Except Failure β) (f : β → Survey) :
    given (x >>= g) f = given x fun a => given (g a) f := by
  cases x <;> rfl

/-- How the session ended. -/
def outcome (a : Survey) : Except Stop Unit :=
  match a.failure with
  | none => .ok ()
  | some why => .error (.failed why)

theorem ext_outcome {a b : Survey} :
    a = b ↔ a.violations = b.violations ∧ a.outcome = b.outcome := by
  refine ⟨by rintro rfl; exact ⟨rfl, rfl⟩, ?_⟩
  rintro ⟨hviolations, houtcome⟩
  obtain ⟨vs, why⟩ := a
  obtain ⟨ws, why'⟩ := b
  cases hviolations
  cases why <;> cases why' <;> cases houtcome <;> rfl

theorem clear_andThen (a : Survey) : clear.andThen a = a := rfl

theorem andThen_assoc (a b c : Survey) : (a.andThen b).andThen c = a.andThen (b.andThen c) := by
  obtain ⟨vs, _ | why⟩ := a
  · obtain ⟨ws, _ | why'⟩ := b
    · exact congrArg (Survey.mk · c.failure) (List.append_assoc vs ws c.violations)
    · rfl
  · rfl

/-- A failure in between makes no difference only if it is not reached, or if what would have come
instead is the same failure. -/
theorem andThen_stopped_eq_iff (a b : Survey) (why : Failure) :
    a.andThen ((stopped why).andThen b) = a.andThen b ↔ a.failure ≠ none ∨ b = stopped why := by
  obtain ⟨vs, _ | why'⟩ := a
  · obtain ⟨ws, failure⟩ := b
    simp [andThen, stopped, eq_comm]
  · simp [andThen]

end Survey

/-! ## What sessions come to -/

namespace Session

/-- A session of which, from a faithful memory and with nobody who stops it, this survey comes.
Without a failure this is what the session reports. -/
def ComesTo (change : Change) (m : Session Unit) (a : Survey) : Prop :=
  ∀ s : SessionState, s.memo.Faithful change.source → s.allowance = none →
    (m s).outcome = a.outcome ∧ (m s).state.memo.Faithful change.source ∧
      (m s).state.allowance = none ∧ reported (m s).log = a.violations

variable {change : Change} {m : Session Unit}

theorem Reports.comesTo {vs : List Violation} (h : Reports change m () vs) :
    ComesTo change m ⟨vs, none⟩ := h

theorem comesTo_failed (why : Failure) : ComesTo change (Run.stop (.failed why)) (.stopped why) :=
  fun _ hs hnone => ⟨rfl, hs, hnone, rfl⟩

/-- What is reported first comes first, and behind a failure nothing comes. -/
theorem ComesTo.bind {f : Unit → Session Unit} {a b : Survey} (hm : ComesTo change m a)
    (hf : ComesTo change (f ()) b) : ComesTo change (m >>= f) (a.andThen b) := by
  intro s hs hnone
  obtain ⟨hout, hmemo, hallow, hlog⟩ := hm s hs hnone
  obtain ⟨vs, _ | why⟩ := a
  · obtain ⟨hout', hmemo', hallow', hlog'⟩ := hf (m s).state hmemo hallow
    rw [Run.bind_of_ok hout]
    exact ⟨hout', hmemo', hallow', by rw [reported_append, hlog, hlog']; rfl⟩
  · rw [Run.bind_of_error hout]
    exact ⟨rfl, hmemo, hallow, hlog⟩

/-- A session that goes on from the answer to a question, if there is one. -/
theorem Alike.comesTo_bind {α : Type} {m : Session α} (h : Alike change change m m)
    {x : Except Failure α} (hm : Settles change m x) {f : α → Session Unit} {a : α → Survey}
    (hf : ∀ v, ComesTo change (f v) (a v)) : ComesTo change (m >>= f) (.given x a) := by
  intro s hs hnone
  obtain ⟨hout, hmemo, hallow⟩ := hm s hs
  cases x with
  | error why =>
    rw [Run.bind_of_error hout]
    exact ⟨rfl, hmemo, hallow.trans hnone, h.reported s⟩
  | ok v =>
    obtain ⟨hout', hmemo', hallow', hlog'⟩ := hf v (m s).state hmemo (hallow.trans hnone)
    rw [Run.bind_of_ok hout]
    exact ⟨hout', hmemo', hallow', by rw [reported_append, h.reported, hlog']; rfl⟩

/-- What comes of a session that starts with nothing known. -/
theorem ComesTo.runUpTo {a : Survey} (h : ComesTo change m a) :
    reported (runUpTo none m).log = a.violations ∧ (runUpTo none m).outcome = a.outcome := by
  obtain ⟨hout, -, -, hlog⟩ := h {} (Memo.faithful_empty _) rfl
  exact ⟨hlog, hout⟩

end Session

/-! ## What the findings of a file say -/

namespace Check

open Session

/-- The errors among findings. -/
def foundErrors (fs : List Finding) : List BlockError :=
  fs.flatMap fun
    | .block _ => []
    | .broken errors => errors

/-- Behind errors nothing is found, so that the blocks before the first error are all there are. -/
theorem blocksAndErrors_findings (text : Text) :
    blocksAndErrors (findings text) =
      (foundBlocks (findings text), foundErrors (findings text)) := by
  obtain ⟨blocks, last, hshape⟩ := Scan.findings_shape (Scan.start text)
  rw [findings, hshape]
  clear hshape
  induction blocks with
  | nil =>
    cases last with
    | none => rfl
    | some errors => exact congrArg (Prod.mk []) (List.append_nil errors).symm
  | cons b blocks ih =>
    rw [List.map_cons, List.cons_append, blocksAndErrors, ih]
    rfl

/-- What is wrong with the markers of a file, given its text: the errors that were found, and the
blocks whose name an earlier one has. -/
def defects (file text : Text) : List Violation :=
  (foundErrors (findings text)).map (.malformed file) ++
    (duplicateNames (foundBlocks (findings text))).map (.duplicate file)

theorem scanText_eq_defects (file text : Text) : scanText file text = defects file text := by
  rw [scanText, blocksAndErrors_findings]
  rfl

/-- What comes of one file.  Nothing is wrong with a file that is missing, and neither with a
directory. -/
def surveyFile (change : Change) (disk : FileTree) (file : Text) : Survey :=
  .given (change.locate file) fun place =>
    match disk.read place with
    | .ok text => ⟨defects file text, none⟩
    | .error (.missing ..) | .error .isDirectory => .clear
    | .error fault => .stopped (.file fault)

/-- What comes of files, one after the other. -/
def surveyFiles (change : Change) (disk : FileTree) : List Text → Survey
  | [] => .clear
  | file :: files => (surveyFile change disk file).andThen (surveyFiles change disk files)

/-- What comes of the files of a listing that patterns ask for. -/
def surveyListing (change : Change) (disk : FileTree) (patterns tree : List Text) : Survey :=
  .given (chosenFiles patterns tree) (surveyFiles change disk)

/-- What comes of the files that a change lists. -/
def surveyTree (change : Change) (disk : FileTree) (patterns : List Text) : Survey :=
  .given (change.source.treeFiles ()).outcome (surveyListing change disk patterns)

theorem surveyFiles_append (change : Change) (disk : FileTree) (files files' : List Text) :
    surveyFiles change disk (files ++ files') =
      (surveyFiles change disk files).andThen (surveyFiles change disk files') := by
  induction files with
  | nil => rfl
  | cons file files ih => rw [List.cons_append, surveyFiles, ih, surveyFiles, Survey.andThen_assoc]

/-! ## Scans that look into more texts or fewer -/

section Scanning

variable {change : Change} {disk : FileTree} {worth : Text → Bool}
  (hworth : ∀ text, worth text = false → findings text = []) (verbose : Bool)

include hworth

theorem comesTo_scanFileBy (file : Text) :
    ComesTo change (scanFileBy worth change disk verbose file) (surveyFile change disk file) := by
  refine (alike_locate rfl file).comesTo_bind (settles_ofExcept _) fun place => ?_
  cases disk.read place with
  | error fault =>
    cases fault with
    | missing access path => exact (reports_progress verbose _).comesTo
    | isDirectory => exact (reports_progress verbose _).comesTo
    | notDirectory access path => exact comesTo_failed _
    | nameTooLong access path => exact comesTo_failed _
  | ok text =>
    dsimp only
    cases hlook : worth text with
    | true =>
      rw [if_pos rfl, scanText_eq_defects]
      exact ((reports_progress verbose _).bind (reports_reportAll _)).comesTo
    | false =>
      -- nothing can be found in a text that is not worth looking into
      have hnone : defects file text = [] := by
        rw [defects, hworth text hlook]
        rfl
      rw [hnone]
      exact (reports_pure ()).comesTo

theorem comesTo_scanFilesBy (files : List Text) :
    ComesTo change (scanFilesBy worth change disk verbose files)
      (surveyFiles change disk files) := by
  induction files with
  | nil => exact (reports_pure ()).comesTo
  | cons file files ih => exact (comesTo_scanFileBy hworth verbose file).bind ih

theorem comesTo_scanTreeBy (patterns : List Text) :
    ComesTo change (scanTreeBy worth change disk verbose patterns)
      (surveyTree change disk patterns) := by
  have hpaths : Settles change (treePaths change patterns)
      ((change.source.treeFiles ()).outcome >>= chosenFiles patterns) := by
    cases htree : (change.source.treeFiles ()).outcome with
    | error why => exact (settles_tree htree).bind_error
    | ok tree => exact settles_treePaths_chosen patterns htree
  have hsurvey : surveyTree change disk patterns = .given _ (surveyFiles change disk) :=
    (Survey.given_bind _ (chosenFiles patterns) _).symm
  rw [hsurvey]
  exact (alike_treePaths patterns).comesTo_bind hpaths (comesTo_scanFilesBy hworth verbose)

end Scanning

theorem comesTo_scanTree (change : Change) (disk : FileTree) (verbose : Bool)
    (patterns : List Text) :
    ComesTo change (scanTree change disk verbose patterns) (surveyTree change disk patterns) :=
  comesTo_scanTreeBy (fun _ => findings_eq_nil_of_unmarked) verbose patterns

/-- A text without the two words holds nothing to find.  So looking into every text, whether it
holds one of the words or not, comes to the same: for each file that can be read, in the order of
the listing, the errors that are found in it and then the names that are given twice in it. -/
theorem scanTree_eq_unabridged :
    (∀ text : Text, ¬ Marker.opening <:+: text → ¬ Marker.closing <:+: text → findings text = []) ∧
    ∀ (change : Change) (disk : FileTree) (verbose : Bool) (patterns : List Text),
      let short := runUpTo none (scanTree change disk verbose patterns)
      let full := runUpTo none (scanTreeBy (fun _ => true) change disk verbose patterns)
      (reported short.log = reported full.log ∧ short.outcome = full.outcome) ∧
        reported full.log = (surveyTree change disk patterns).violations ∧
        full.outcome = (surveyTree change disk patterns).outcome := by
  refine ⟨fun text hopening hclosing => findings_eq_nil_of_unmarked ?_, ?_⟩
  · rw [hasMarker, Bool.or_eq_false_iff, ← Bool.not_eq_true, ← Bool.not_eq_true, Text.includes_iff,
      Text.includes_iff]
    exact ⟨hopening, hclosing⟩
  · intro change disk verbose patterns
    have hall : ComesTo change (scanTreeBy (fun _ => true) change disk verbose patterns) _ :=
      comesTo_scanTreeBy (by simp) verbose patterns
    have hshort := (comesTo_scanTree change disk verbose patterns).runUpTo
    have hfull := hall.runUpTo
    exact ⟨⟨hshort.1.trans hfull.1.symm, hshort.2.trans hfull.2.symm⟩, hfull⟩

/-- A text in which both words are broken by the end of a line. -/
def brokenWords : Text := "# if-\n# changed(x)\n# then-\n# change()\n".toList

/-- A name that is given twice, before a block that does not end. -/
def twiceNamed : Text :=
  "# if-changed(x)\n# then-change()\n# if-changed(x)\n# then-change()\n# if-changed\n".toList

/-- A listing of both texts, the latter behind a path that is gone. -/
def brokenSource : ChangeSource where
  root := some "/repo".toList
  exemptPatterns := []
  changedFiles := pure []
  filePatch := fun _ => pure none
  treeFiles := pure [['w'], ['g'], ['t']]

def brokenDisk : FileTree :=
  .ofFiles "/repo".toList [(['w'], .file brokenWords), (['t'], .file twiceNamed)]

theorem scanTree_eq_unabridged_broken :
    ¬ Marker.opening <:+: brokenWords ∧ ¬ Marker.closing <:+: brokenWords ∧
      findings brokenWords = [] ∧
      reported (runUpTo none (scanTree ⟨brokenSource, []⟩ brokenDisk true [])).log =
        [.malformed ['t'] (.noClosing 5), .duplicate ['t'] ⟨['x'], 3⟩] := by
  have hopening : ¬ Marker.opening <:+: brokenWords := by
    rw [← Text.includes_iff, Bool.not_eq_true]
    decide
  have hclosing : ¬ Marker.closing <:+: brokenWords := by
    rw [← Text.includes_iff, Bool.not_eq_true]
    decide
  have hsurvey : (surveyTree ⟨brokenSource, []⟩ brokenDisk []).violations =
      [.malformed ['t'] (.noClosing 5), .duplicate ['t'] ⟨['x'], 3⟩] := by decide +kernel
  obtain ⟨⟨hsame, -⟩, hfull, -⟩ := scanTree_eq_unabridged.2 ⟨brokenSource, []⟩ brokenDisk true []
  exact ⟨hopening, hclosing, scanTree_eq_unabridged.1 brokenWords hopening hclosing,
    hsame.trans (hfull.trans hsurvey)⟩

end Check

end Lockstep
