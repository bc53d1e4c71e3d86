import Lockstep.Cli.Program
import Lockstep.Proofs.EarlyStop
import Lockstep.Proofs.StalePaths

/-!
# Violations on one line

Every violation is to stand on a line of its own, whatever names the files have.  Messages
quote paths, patterns and names, and a quoted text stays on one line.  This file finds the
one place where a message can break nevertheless (`Check.oneLine_reported_iff`): a message
also hands on the words of the system, and these name the place of a file as it is.

* `Violation.oneLine_message_iff`: a message is on one line if the words of the system in it
  are.
* `Session.Ensures`: what holds of everything that a session reports, and of its value.
  Sessions one after the other are worked out one by one (`Session.Ensures.bind`).
* `Check.Founded`: a violation tells of a file that cannot be read only if the change lists
  the file and it cannot be read.  All violations of a check are founded
  (`Check.ensures_visitAll`), and a scan does not tell of such files at all.
-/

namespace Lockstep

/-! ## Messages -/

/-- A string that stays on one line. -/
def OneLine (s : String) : Prop := '\n' ∉ s.toList

instance (s : String) : Decidable (OneLine s) := inferInstanceAs (Decidable (¬ _))

@[simp]
theorem oneLine_append {s t : String} : OneLine (s ++ t) ↔ OneLine s ∧ OneLine t := by
  simp [OneLine]

@[simp]
theorem oneLine_toString {s : String} : OneLine (toString s) ↔ OneLine s := .rfl

theorem Text.hexDigit_ne_feed {n : Nat} (h : n < 16) : hexDigit n ≠ '\n' := by
  have hall : ∀ n < 16, hexDigit n ≠ '\n' := by decide
  exact hall n h

theorem Text.feed_not_mem_escape (c : Char) : '\n' ∉ escape c := by
  unfold escape
  repeat' split
  any_goals decide
  · next hcontrol =>
    have hhigh := hexDigit_ne_feed (n := c.toNat / 16) (by omega)
    have hlow := hexDigit_ne_feed (n := c.toNat % 16) (by omega)
    simp [hhigh.symm, hlow.symm]
  · next hfeed _ _ _ => simpa using Ne.symm hfeed

/-- A quoted text is on one line, whatever the text is. -/
@[simp]
theorem Text.oneLine_quote (t : Text) : OneLine t.quote := by
  have hinner : '\n' ∉ t.flatMap escape := by
    rw [List.mem_flatMap]
    rintro ⟨c, -, hc⟩
    exact feed_not_mem_escape c hc
  simp [OneLine, quote, quoted, hinner]

@[simp]
theorem oneLine_repr (n : Nat) : OneLine n.repr := by
  intro hfeed
  have hmem : '\n' ∈ Nat.toDigits 10 n := by simpa [Nat.repr] using hfeed
  have hdigit : '\n'.isDigit = true := Nat.isDigit_of_mem_toDigits (by decide) (by decide) hmem
  cases hdigit

theorem BlockError.oneLine_message (path : Text) (e : BlockError) : OneLine (e.message path) := by
  cases e with
  | emptyEntry entryLine line =>
    -- only the outer shape is laid open: unfolding `message` would open its long literals as well
    show OneLine (_ ++ _ ++ _ ++ _ ++ _ ++ _ ++ _)
    simp +decide
  | _ =>
    show OneLine (_ ++ _ ++ _ ++ _ ++ _)
    simp +decide

theorem DuplicateName.oneLine_message (path : Text) (d : DuplicateName) :
    OneLine (d.message path) := by
  show OneLine (_ ++ _ ++ _ ++ _ ++ _ ++ _ ++ _)
  simp +decide

@[simp]
theorem Stated.oneLine_phrase (s : Stated) : OneLine s.phrase := by
  show OneLine (_ ++ _ ++ _ ++ _)
  simp +decide

/-- The file that a violation says could not be read, and why, if it says so. -/
def Violation.unread? : Violation → Option (Text × FileFault)
  | .unreadable path fault => some (path, fault)
  | .unopenable target _ fault => some (target, fault)
  | _ => none

/-- A message is on one line if the words of the system in it are. -/
theorem Violation.oneLine_message_iff (v : Violation) :
    OneLine v.message ↔ ∀ path fault, v.unread? = some (path, fault) → OneLine fault.message := by
  cases v with
  | malformed path error =>
    show OneLine (error.message path) ↔ _
    simp [unread?, error.oneLine_message path]
  | duplicate path name =>
    show OneLine (name.message path) ↔ _
    simp [unread?, name.oneLine_message path]
  | unreadable path fault =>
    show OneLine (_ ++ _ ++ _ ++ _ ++ _) ↔ _
    simp +decide [unread?]
  | noTarget pattern stated =>
    show OneLine (_ ++ _ ++ _ ++ _ ++ _) ↔ _
    simp +decide [unread?]
  | untouched target stated =>
    show OneLine (_ ++ _ ++ _ ++ _ ++ _) ↔ _
    simp +decide [unread?]
  | unopenable target stated fault =>
    show OneLine (_ ++ _ ++ _ ++ _ ++ _ ++ _ ++ _) ↔ _
    simp +decide [unread?]
  | noBlock name target stated =>
    show OneLine (_ ++ _ ++ _ ++ _ ++ _ ++ _ ++ _) ↔ _
    simp +decide [unread?]

@[simp]
theorem oneLine_ofList {t : Text} : OneLine (String.ofList t) ↔ '\n' ∉ t := by simp [OneLine]

theorem FileAccess.oneLine_word (a : FileAccess) : OneLine a.word := by cases a <;> decide

/-- The words of the system name a place as it is. -/
theorem FileFault.oneLine_message_iff {place : Text} {access : FileAccess} {fault : FileFault}
    (h : fault = .missing access place ∨ fault = .notDirectory access place ∨
      fault = .nameTooLong access place) : OneLine fault.message ↔ '\n' ∉ place := by
  rcases h with rfl | rfl | rfl
  all_goals
    show OneLine (_ ++ _ ++ _ ++ _ ++ _) ↔ _
    simp +decide [access.oneLine_word]

/-! ## What holds of everything that is reported -/

namespace Session

variable {change : Change} {α β : Type} {P : Violation → Prop} {Q : α → Prop} {R : β → Prop}
  {m : Session α}

/-- A session that, from a faithful memory, reports only violations with `P` and has only values
with `Q`, whether it comes to its end or not. -/
def Ensures (change : Change) (m : Session α) (P : Violation → Prop) (Q : α → Prop) : Prop :=
  ∀ s : SessionState, s.memo.Faithful change.source →
    (m s).state.memo.Faithful change.source ∧ (∀ v ∈ reported (m s).log, P v) ∧
      ∀ a, (m s).outcome = .ok a → Q a

/-- What is known of the value of the first session can be used in the second one. -/
theorem Ensures.bind {f : α → Session β} (hm : Ensures change m P Q)
    (hf : ∀ a, Q a → Ensures change (f a) P R) : Ensures change (m >>= f) P R := by
  intro s hs
  obtain ⟨hmemo, htold, hvalue⟩ := hm s hs
  cases hout : (m s).outcome with
  | error why =>
    rw [Run.bind_of_error hout]
    refine ⟨hmemo, htold, ?_⟩
    rintro b ⟨⟩
  | ok a =>
    obtain ⟨hmemo', htold', hvalue'⟩ := hf a (hvalue a hout) (m s).state hmemo
    rw [Run.bind_of_ok hout]
    refine ⟨hmemo', ?_, hvalue'⟩
    intro v hv
    rw [reported_append, List.mem_append] at hv
    exact hv.elim (htold v) (htold' v)

/-- A session that only inquires reports nothing, and its value is what it settles on. -/
theorem Alike.ensures (h : Alike change change m m) (hQ : ∀ a, Settles change m (.ok a) → Q a) :
    Ensures change m P Q := by
  intro s hs
  obtain ⟨x, hx, -⟩ := h.settles (.refl _)
  obtain ⟨hout, hmemo, -⟩ := hx s hs
  refine ⟨hmemo, ?_, ?_⟩
  · intro v hv
    rw [h.reported s] at hv
    cases hv
  · intro a ha
    cases x with
    | error why =>
      rw [hout] at ha
      cases ha
    | ok b =>
      rw [hout] at ha
      cases ha
      exact hQ _ hx

theorem Ensures.imp {P' : Violation → Prop} (h : Ensures change m P Q) (hP : ∀ v, P v → P' v) :
    Ensures change m P' Q := by
  intro s hs
  obtain ⟨hmemo, htold, hvalue⟩ := h s hs
  exact ⟨hmemo, fun v hv => hP v (htold v hv), hvalue⟩

theorem ensures_pure {a : α} (h : Q a) : Ensures change (pure a) P Q :=
  (Alike.pure a).ensures fun _ hb => by cases (settles_pure a).unique hb; exact h

theorem ensures_ofExcept (x : Except Failure α) :
    Ensures change (ofExcept x) P fun a => x = .ok a :=
  (Alike.ofExcept x).ensures fun _ ha => (settles_ofExcept x).unique ha

/-- A session about whose value nothing has to be known. -/
theorem Alike.ensures_true (h : Alike change change m m) : Ensures change m P fun _ => True :=
  h.ensures fun _ _ => trivial

theorem ensures_progress (verbose : Bool) (line : String) :
    Ensures change (progress verbose line) P fun _ => True := by
  intro s hs
  cases verbose with
  | true => exact ⟨hs, by rintro v ⟨⟩, fun _ _ => trivial⟩
  | false => exact ⟨hs, by rintro v ⟨⟩, fun _ _ => trivial⟩

theorem ensures_report {v : Violation} (h : P v) : Ensures change (report v) P fun _ => True := by
  intro s hs
  have hleft : (report v s).state.memo = s.memo ∧ (report v s).log = [.reported v] := by
    obtain ⟨memo, allowance⟩ := s
    cases allowance with
    | none => exact ⟨rfl, rfl⟩
    | some n => cases n with
      | zero => exact ⟨rfl, rfl⟩
      | succ n => cases n <;> exact ⟨rfl, rfl⟩
  rw [hleft.1, hleft.2]
  refine ⟨hs, ?_, fun _ _ => trivial⟩
  intro w hw
  rw [List.mem_singleton.1 hw]
  exact h

theorem ensures_reportAll {vs : List Violation} (h : ∀ v ∈ vs, P v) :
    Ensures change (reportAll vs) P fun _ => True := by
  induction vs with
  | nil => exact ensures_pure trivial
  | cons v vs ih =>
    obtain ⟨hv, hvs⟩ := List.forall_mem_cons.1 h
    exact (ensures_report hv).bind fun _ _ => ih hvs

/-- What holds of all that is reported holds of what is seen by somebody who waits for some. -/
theorem Ensures.runUpTo {m : Session Unit} {Q : Unit → Prop} (h : Ensures change m P Q)
    (limit : Option Nat) : ∀ v ∈ reported (runUpTo limit m).log, P v := by
  match limit with
  | none => exact (h _ (Memo.faithful_empty _)).2.1
  | some 0 => rintro v ⟨⟩
  | some (n + 1) => exact (h _ (Memo.faithful_empty _)).2.1

end Session

/-! ## Files that cannot be read -/

/-- Where the words of the system break: at a place with a line feed in it, unless a directory is
there, which is not named. -/
theorem FileTree.oneLine_fault_iff {tree : FileTree} {place : Text} {fault : FileFault}
    (h : tree.read place = .error fault) :
    OneLine fault.message ↔ ('\n' ∈ place → tree.find .opening place = .ok .directory) := by
  unfold read at h
  cases hfind : tree.find .opening place with
  | error why =>
    rw [hfind] at h
    cases h
    rw [FileFault.oneLine_message_iff (follow_error hfind)]
    simp
  | ok node =>
    rw [hfind] at h
    cases node with
    | file text => cases h
    | directory =>
      cases h
      simp only [implies_true, iff_true]
      decide

/-- A path that the change lists. -/
def Change.Lists (change : Change) (path : Text) : Prop :=
  ∃ listed, (change.source.changedFiles ()).outcome = .ok listed ∧ path ∈ listed.map (·.path)

namespace Check

open Session

/-- A violation that tells of a file that cannot be read only if the change lists the file, and it
cannot be read for the reason that is told. -/
def Founded (change : Change) (disk : FileTree) (v : Violation) : Prop :=
  ∀ path fault, v.unread? = some (path, fault) →
    change.Lists path ∧ ∃ place, change.locate path = .ok place ∧ disk.read place = .error fault

section Founded

variable {change : Change} {disk : FileTree} {P : Violation → Prop}

theorem founded_of_eq_none {v : Violation} (h : v.unread? = none) : Founded change disk v := by
  intro path fault hsome
  rw [h] at hsome
  cases hsome

theorem founded_of_unread {v : Violation} {path place : Text} {fault : FileFault}
    (h : v.unread? = some (path, fault)) (hlists : change.Lists path)
    (hplace : change.locate path = .ok place) (hread : disk.read place = .error fault) :
    Founded change disk v := by
  intro path' fault' hsome
  rw [h] at hsome
  cases hsome
  exact ⟨hlists, place, hplace, hread⟩

/-- Only paths that the change lists are selected. -/
theorem ensures_select (patterns : List Text) :
    Ensures change (select change patterns) P
      fun found => ∀ path ∈ selectedPaths found, change.Lists path := by
  have hfiles : Ensures change (changedFiles change) P fun files =>
      ∀ path ∈ files.map (·.path), change.Lists path := by
    refine Alike.changedFiles.ensures fun files hsettles path hpath => ?_
    have heq := settles_changedFiles.unique hsettles
    cases hlisted : (change.source.changedFiles ()).outcome with
    | error why =>
      rw [hlisted] at heq
      cases heq
    | ok listed =>
      rw [hlisted] at heq
      cases heq
      obtain ⟨file, hfile, rfl⟩ := List.mem_map.1 hpath
      exact ⟨listed, hlisted, List.mem_map_of_mem (mem_of_mem_lastBy hfile)⟩
  refine hfiles.bind fun files hlists => ?_
  split
  · refine ensures_pure fun path hpath => hlists path ?_
    simpa [selectedPaths, List.filterMap_map] using hpath
  · refine (ensures_ofExcept _).bind fun set _ => ensures_pure fun path hpath => hlists path ?_
    rw [selectedPaths_selections] at hpath
    exact List.mem_of_mem_filter hpath

theorem ensures_unmet (d : Demand) : Ensures change (unmet change d) P (·.unread? = none) := by
  refine (alike_treePaths _).ensures_true.bind fun existing _ => ensures_pure ?_
  cases existing.isEmpty <;> rfl

theorem ensures_unmetAll (ds : List Demand) :
    Ensures change (unmetAll change ds) P fun vs => ∀ v ∈ vs, v.unread? = none := by
  induction ds with
  | nil => exact ensures_pure (by simp)
  | cons d ds ih =>
    refine (ensures_unmet d).bind fun v hv => ih.bind fun vs hvs => ensures_pure ?_
    exact List.forall_mem_cons.2 ⟨hv, hvs⟩

/-- Obligations without a name are not looked up in files. -/
theorem ensures_checkPlain (ds : List Demand) :
    Ensures change (checkPlain change ds) P fun vs => ∀ v ∈ vs, v.unread? = none := by
  unfold checkPlain
  split
  · exact ensures_pure (by simp)
  · exact (ensures_select _).bind fun found _ => ensures_unmetAll _

theorem ensures_checkTarget (d : Demand) (name : Text) {target : Text}
    (hlists : change.Lists target) :
    Ensures change (checkTarget change disk d name target) P
      fun vs => ∀ v ∈ vs, Founded change disk v := by
  refine (ensures_ofExcept _).bind fun place hplace => ?_
  cases hread : disk.read place with
  | error fault =>
    exact ensures_pure (List.forall_mem_singleton.2 (founded_of_unread rfl hlists hplace hread))
  | ok text =>
    dsimp only
    cases lookup name (findings text) with
    | broken errors => exact ensures_pure (List.forall_mem_map.2 fun e _ => founded_of_eq_none rfl)
    | absent => exact ensures_pure (List.forall_mem_singleton.2 (founded_of_eq_none rfl))
    | found b =>
      refine (alike_touches target b.range).ensures_true.bind fun touched _ => ensures_pure ?_
      cases touched with
      | true => simp
      | false => exact List.forall_mem_singleton.2 (founded_of_eq_none rfl)

theorem ensures_checkTargets (d : Demand) (name : Text) {targets : List Text}
    (hlists : ∀ target ∈ targets, change.Lists target) :
    Ensures change (checkTargets change disk d name targets) P
      fun vs => ∀ v ∈ vs, Founded change disk v := by
  induction targets with
  | nil => exact ensures_pure (by simp)
  | cons target targets ih =>
    obtain ⟨hfirst, hrest⟩ := List.forall_mem_cons.1 hlists
    refine (ensures_checkTarget d name hfirst).bind fun vs hvs => ?_
    refine (ih hrest).bind fun more hmore => ensures_pure ?_
    exact List.forall_mem_append.2 ⟨hvs, hmore⟩

theorem ensures_checkNamed (d : Demand) (name : Text) :
    Ensures change (checkNamed change disk d name) P fun vs => ∀ v ∈ vs, Founded change disk v := by
  refine (ensures_select _).bind fun found hlists => ?_
  dsimp only
  split
  · exact ensures_checkTargets d name hlists
  · split
    · exact ensures_pure (by simp)
    · refine (ensures_unmet d).bind fun v hv => ensures_pure ?_
      exact List.forall_mem_singleton.2 (founded_of_eq_none hv)

theorem ensures_checkAllNamed (ds : List Demand) :
    Ensures change (checkAllNamed change disk ds) P fun vs => ∀ v ∈ vs, Founded change disk v := by
  induction ds with
  | nil => exact ensures_pure (by simp)
  | cons d ds ih =>
    unfold checkAllNamed
    cases d.name with
    | none => exact ih
    | some name =>
      refine (ensures_checkNamed d name).bind fun vs hvs => ih.bind fun more hmore =>
        ensures_pure ?_
      exact List.forall_mem_append.2 ⟨hvs, hmore⟩

theorem ensures_checkBlock (file : Text) (b : Block) :
    Ensures change (checkBlock change disk file b) P fun vs => ∀ v ∈ vs, Founded change disk v := by
  refine (ensures_checkPlain _).bind fun vs hvs => ?_
  refine (ensures_checkAllNamed _).bind fun more hmore => ensures_pure ?_
  exact List.forall_mem_append.2 ⟨fun v hv => founded_of_eq_none (hvs v hv), hmore⟩

theorem ensures_checkFindings (file : Text) {before : List Violation}
    (hbefore : ∀ v ∈ before, Founded change disk v) (fs : List Finding) :
    Ensures change (checkFindings change disk file before fs) P
      fun vs => ∀ v ∈ vs, Founded change disk v := by
  induction fs generalizing before with
  | nil => exact ensures_pure hbefore
  | cons f fs ih =>
    cases f with
    | broken errors => exact ensures_pure (List.forall_mem_map.2 fun e _ => founded_of_eq_none rfl)
    | block b =>
      refine (alike_touches file b.range).ensures_true.bind fun touched _ => ?_
      cases touched with
      | true =>
        refine (ensures_checkBlock file b).bind fun vs hvs => ih ?_
        exact List.forall_mem_append.2 ⟨hbefore, hvs⟩
      | false => exact ih hbefore

theorem ensures_checkFile {file : Text} (hlists : change.Lists file) :
    Ensures change (checkFile change disk file) P fun vs => ∀ v ∈ vs, Founded change disk v := by
  refine (ensures_ofExcept _).bind fun place hplace => ?_
  cases hread : disk.read place with
  | error fault =>
    exact ensures_pure (List.forall_mem_singleton.2 (founded_of_unread rfl hlists hplace hread))
  | ok text => exact ensures_checkFindings file (by simp) _

theorem ensures_visitPresent (verbose : Bool) {file : Text} (hlists : change.Lists file) :
    Ensures change (visitPresent change disk verbose file) (Founded change disk) fun _ => True := by
  refine (ensures_ofExcept _).bind fun place _ => (ensures_ofExcept _).bind fun isDirectory _ => ?_
  cases isDirectory with
  | true => exact ensures_progress verbose _
  | false =>
    refine (ensures_progress verbose _).bind fun _ _ => ?_
    exact (ensures_checkFile hlists).bind fun vs hvs => ensures_reportAll hvs

theorem ensures_visit (verbose : Bool) {file : Text} (hlists : change.Lists file) :
    Ensures change (visit change disk verbose file) (Founded change disk) fun _ => True := by
  unfold visit
  split
  · exact ensures_progress verbose _
  · refine (alike_isDeleted file).ensures_true.bind fun isDeleted _ => ?_
    cases isDeleted with
    | true => exact ensures_progress verbose _
    | false => exact ensures_visitPresent verbose hlists

/-- Along what patterns select, all violations are founded. -/
theorem ensures_visitAll (verbose : Bool) {found : List Selection}
    (hlists : ∀ path ∈ selectedPaths found, change.Lists path) :
    Ensures change (visitAll change disk verbose found) (Founded change disk) fun _ => True := by
  induction found with
  | nil => exact ensures_pure trivial
  | cons selection found ih =>
    cases selection with
    | unused pattern => exact (ensures_progress verbose _).bind fun _ _ => ih hlists
    | path file =>
      have hcons : selectedPaths (.path file :: found) = file :: selectedPaths found := rfl
      rw [hcons, List.forall_mem_cons] at hlists
      exact (ensures_visit verbose hlists.1).bind fun _ _ => ih hlists.2

/-- A scan does not tell of files that cannot be read. -/
theorem ensures_scanFileBy (worth : Text → Bool) (verbose : Bool) (file : Text) :
    Ensures change (scanFileBy worth change disk verbose file) (·.unread? = none)
      fun _ => True := by
  have htext : ∀ text, ∀ v ∈ scanText file text, v.unread? = none := by
    intro text
    rw [scanText_eq_defects, defects, List.forall_mem_append, List.forall_mem_map,
      List.forall_mem_map]
    exact ⟨fun e _ => rfl, fun d _ => rfl⟩
  refine (ensures_ofExcept _).bind fun place _ => ?_
  split
  · exact ensures_progress verbose _
  · exact ensures_progress verbose _
  · next fault _ _ _ => exact (Alike.ofExcept (.error (.file fault))).ensures_true
  · next text _ =>
    split
    · exact (ensures_progress verbose _).bind fun _ _ => ensures_reportAll (htext text)
    · exact ensures_pure trivial

theorem ensures_scanFilesBy (worth : Text → Bool) (verbose : Bool) (files : List Text) :
    Ensures change (scanFilesBy worth change disk verbose files) (·.unread? = none)
      fun _ => True := by
  induction files with
  | nil => exact ensures_pure trivial
  | cons file files ih => exact (ensures_scanFileBy worth verbose file).bind fun _ _ => ih

theorem ensures_checkChange (verbose : Bool) (patterns : List Text) :
    Ensures change (checkChange change disk verbose patterns) (Founded change disk) fun _ => True :=
  (ensures_select patterns).bind fun _ hlists => ensures_visitAll verbose hlists

theorem ensures_scanTree (verbose : Bool) (patterns : List Text) :
    Ensures change (scanTree change disk verbose patterns) (·.unread? = none) fun _ => True :=
  (alike_treePaths patterns).ensures_true.bind fun files _ =>
    ensures_scanFilesBy hasMarker verbose files

/-- In both modes violations are founded, and a scan tells of no file that cannot be read. -/
theorem ensures_goThrough (task : Task) :
    Ensures change (goThrough change disk task)
      (fun v => Founded change disk v ∧ (task.scan = true → v.unread? = none)) fun _ => True := by
  unfold goThrough
  cases task.scan with
  | true =>
    exact (ensures_scanTree task.verbose task.patterns).imp fun v hv =>
      ⟨founded_of_eq_none hv, fun _ => hv⟩
  | false =>
    refine (ensures_checkChange task.verbose task.patterns).imp fun v hv => ⟨hv, ?_⟩
    rintro ⟨⟩

end Founded

/-! ## One violation a line -/

/-- Of all violations that a check or a scan of a change with a working copy reports, a violation is
on one line exactly if it does not tell of a file that cannot be opened and lies at a place with a
line feed in it.  So all violations of a scan are on one line, and those of a check are if every
listed path whose place has a line feed in it is there. -/
theorem oneLine_reported_iff {change : Change} {root : Text}
    (hroot : change.source.root = some root) (disk : FileTree) (task : Task) (limit : Option Nat) :
    let violations := reported (runUpTo limit (goThrough change disk task)).log
    (∀ v ∈ violations,
      (OneLine v.message ↔ ∀ path fault, v.unread? = some (path, fault) →
        '\n' ∈ Path.join root path →
        disk.find .opening (Path.join root path) = .ok .directory) ∧
      ((Cli.errorText (.reported v)).toList.count '\n' = 1 ↔ OneLine v.message)) ∧
    (task.scan = true → ∀ v ∈ violations, OneLine v.message) ∧
    ((∀ path, change.Lists path → '\n' ∈ Path.join root path →
        ∃ node, disk.find .opening (Path.join root path) = .ok node) →
      ∀ v ∈ violations, OneLine v.message) := by
  intro violations
  have hfounded : ∀ v ∈ violations, Founded change disk v ∧ (task.scan = true → v.unread? = none) :=
    (ensures_goThrough task).runUpTo limit
  have hplace : ∀ v ∈ violations, ∀ path fault, v.unread? = some (path, fault) →
      change.Lists path ∧ disk.read (Path.join root path) = .error fault := by
    intro v hv path fault hunread
    obtain ⟨hlists, place, hlocate, hread⟩ := (hfounded v hv).1 path fault hunread
    rw [Change.locate, hroot] at hlocate
    cases hlocate
    exact ⟨hlists, hread⟩
  have hexact : ∀ v ∈ violations, OneLine v.message ↔ ∀ path fault, v.unread? = some (path, fault) →
      '\n' ∈ Path.join root path → disk.find .opening (Path.join root path) = .ok .directory := by
    intro v hv
    rw [v.oneLine_message_iff]
    refine forall_congr' fun path => forall_congr' fun fault => forall_congr' fun hunread => ?_
    exact FileTree.oneLine_fault_iff (hplace v hv path fault hunread).2
  refine ⟨fun v hv => ⟨hexact v hv, ?_⟩, ?_, ?_⟩
  · have hcount : (Cli.errorText (.reported v)).toList.count '\n' =
        v.message.toList.count '\n' + 1 := by
      show (v.message ++ "\n").toList.count '\n' = _
      simp
    rw [hcount, OneLine, ← List.count_eq_zero]
    omega
  · intro hscan v hv
    rw [hexact v hv, (hfounded v hv).2 hscan]
    rintro path fault ⟨⟩
  · intro hthere v hv
    rw [hexact v hv]
    intro path fault hunread hfeed
    obtain ⟨hlists, hread⟩ := hplace v hv path fault hunread
    obtain ⟨node, hnode⟩ := hthere path hlists hfeed
    -- a file that is there can be read
    rw [FileTree.read, hnode] at hread
    cases node with
    | file text => cases hread
    | directory => exact hnode

/-- A change that deletes a file with a line feed in its name and adds another file. -/
def feedSource : ChangeSource where
  root := some "/repo".toList
  exemptPatterns := []
  changedFiles := pure [⟨"a\nb".toList, .deleted⟩, ⟨['f'], .added⟩]
  filePatch := fun _ => pure none
  treeFiles := pure [['f']]

/-- A block that needs a change of a block in the deleted file. -/
def feedText : Text := "# if-changed\n# then-change(a*:part)\n".toList

/-- The new file, and a directory in the place of the deleted one. -/
def feedReplacedDisk : FileTree :=
  .ofFiles "/repo".toList [(['f'], .file feedText), ("a\nb".toList, .directory)]

/-- The new file alone. -/
def feedGoneDisk : FileTree := .ofFiles "/repo".toList [(['f'], .file feedText)]

/-- Of the directory it is told on one line that it is none of the files that can be read. -/
theorem oneLine_reported_iff_replaced :
    let v : Violation := .unopenable "a\nb".toList ⟨['f'], 2⟩ .isDirectory
    feedSource.root = some "/repo".toList ∧
      reported (runUpTo none (goThrough ⟨feedSource, []⟩ feedReplacedDisk {})).log = [v] ∧
      '\n' ∈ Path.join "/repo".toList "a\nb".toList ∧ OneLine v.message := by
  intro v
  have hreported :
      reported (runUpTo none (goThrough ⟨feedSource, []⟩ feedReplacedDisk {})).log = [v] := by
    decide +kernel
  have hmem : v ∈ reported (runUpTo none (goThrough ⟨feedSource, []⟩ feedReplacedDisk {})).log := by
    rw [hreported]
    exact List.mem_singleton_self v
  obtain ⟨hexact, -⟩ := @oneLine_reported_iff ⟨feedSource, []⟩ _ rfl feedReplacedDisk {} none
  refine ⟨rfl, hreported, by decide, (hexact v hmem).1.2 ?_⟩
  rintro path fault ⟨⟩ -
  decide

/-- Where nothing is in the place of the deleted file, a violation takes two lines. -/
theorem feed_breaks_violation :
    let v : Violation :=
      .unopenable "a\nb".toList ⟨['f'], 2⟩ (.missing .opening "/repo/a\nb".toList)
    feedSource.root = some "/repo".toList ∧
      reported (runUpTo none (goThrough ⟨feedSource, []⟩ feedGoneDisk {})).log = [v] ∧
      v.message = "Could not open \"a\\nb\" for \"then-change\" in \"f\" at line 2: " ++
        "ENOENT: no such file or directory, open '/repo/a\nb'." ∧
      ¬ OneLine v.message := by
  decide +kernel

end Check

end Lockstep
