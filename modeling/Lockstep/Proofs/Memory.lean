import Mathlib.Tactic.Common
import Lockstep.Change.Query

/-!
# What a session remembers

A session remembers the answers of its source, so its state grows while it runs.
This file shows that nothing depends on how far it has grown, as long as what is
remembered is what the source says (`Memo.Faithful`).

* `Session.Settles`: a session *settles* on an outcome if it has this outcome
  from every faithful memory, and leaves a faithful memory behind.  Sessions that
  settle can be put one after the other (`Settles.bind`), so that a session is
  worked out like an ordinary computation that may fail.
* `settles_changedFiles`, `settles_treeFiles`, `settles_filePatch`: the three
  questions settle on what the source answers.
* `Answering`: a source with a working copy that answers every question; over
  such a source the queries settle on plain values (`Answering.settles_select`,
  `Answering.settles_touches`).
-/

namespace Lockstep

/-- Every answer that is remembered is the answer that the source gives. -/
structure Memo.Faithful (source : ChangeSource) (memo : Memo) : Prop where
  changed : ∀ answer, memo.changed = some answer →
    answer = (source.changedFiles ()).outcome.map (lastBy (·.path))
  tree : ∀ answer, memo.tree = some answer → answer = (source.treeFiles ()).outcome
  patches : ∀ path answer, memo.patches.lookup path = some answer →
    answer = (source.filePatch path ()).outcome

/-- Who remembers nothing remembers nothing wrong. -/
theorem Memo.faithful_empty (source : ChangeSource) : Memo.Faithful source {} where
  changed := by intro answer h; cases h
  tree := by intro answer h; cases h
  patches := by intro path answer h; cases h

/-! ## Runs one after the other -/

namespace Run

variable {σ ε ι α β : Type} {m : Run σ ε ι α} {f : α → Run σ ε ι β} {s : σ}

theorem bind_of_ok {a : α} (h : (m s).outcome = .ok a) :
    (m >>= f) s = ⟨(f a (m s).state).outcome, (f a (m s).state).state,
      (m s).log ++ (f a (m s).state).log⟩ := by
  show Run.bind m f s = _
  simp only [Run.bind, h]

theorem bind_of_error {why : ι} (h : (m s).outcome = .error why) :
    (m >>= f) s = ⟨.error why, (m s).state, (m s).log⟩ := by
  show Run.bind m f s = _
  simp only [Run.bind, h]

theorem outcome_bind_of_ok {a : α} (h : (m s).outcome = .ok a) :
    ((m >>= f) s).outcome = (f a (m s).state).outcome := by
  rw [bind_of_ok h]

/-- What a run of two parts gives comes from the second one, behind what the first one gave. -/
theorem exists_of_bind_eq_ok {b : β} (h : ((m >>= f) s).outcome = .ok b) :
    ∃ a, (m s).outcome = .ok a ∧ (f a (m s).state).outcome = .ok b := by
  cases hm : (m s).outcome with
  | error why =>
    rw [bind_of_error hm] at h
    cases h
  | ok a =>
    rw [bind_of_ok hm] at h
    exact ⟨a, rfl, h⟩

end Run

namespace Session

/-- A session that has the outcome `x` from every faithful memory, and keeps it faithful.  Such a
session reports nothing, so the allowance stays what it is. -/
def Settles (change : Change) (m : Session α) (x : Except Failure α) : Prop :=
  ∀ s : SessionState, s.memo.Faithful change.source →
    (m s).outcome = x.mapError .failed ∧ (m s).state.memo.Faithful change.source ∧
      (m s).state.allowance = s.allowance

variable {change : Change} {α β : Type}

/-! ## One session after the other -/

theorem ofExcept_apply (x : Except Failure α) (s : SessionState) :
    ofExcept x s = ⟨x.mapError .failed, s, []⟩ := by
  cases x <;> rfl

theorem ask_apply (question : Question) (job : Git.Job α) (s : SessionState) :
    ask question job s =
      ⟨.ok (job ()).outcome, s, .asked question :: (job ()).log.map .commanded⟩ := by
  have hlog : (ask question job s).log = .asked question :: ((job ()).log.map .commanded ++ []) :=
    rfl
  rw [List.append_nil] at hlog
  rw [← hlog]
  rfl

theorem settles_pure (a : α) : Settles change (pure a) (.ok a) :=
  fun _ hs => ⟨rfl, hs, rfl⟩

theorem settles_ofExcept (x : Except Failure α) : Settles change (ofExcept x) x := by
  intro s hs
  rw [ofExcept_apply]
  exact ⟨rfl, hs, rfl⟩

/-- Two sessions one after the other settle on what their outcomes give one after the other. -/
theorem Settles.bind {m : Session α} {f : α → Session β} {x : Except Failure α}
    {y : α → Except Failure β} (hm : Settles change m x)
    (hf : ∀ a, x = .ok a → Settles change (f a) (y a)) : Settles change (m >>= f) (x >>= y) := by
  intro s hs
  obtain ⟨hout, hmemo, hallow⟩ := hm s hs
  cases x with
  | error why =>
    rw [Run.bind_of_error hout]
    exact ⟨rfl, hmemo, hallow⟩
  | ok a =>
    obtain ⟨h₁, h₂, h₃⟩ := hf a rfl (m s).state hmemo
    rw [Run.bind_of_ok hout]
    exact ⟨h₁, h₂, h₃.trans hallow⟩

/-- A session behind one that settles on a value goes on with this value. -/
theorem Settles.andThen {m : Session α} {f : α → Session β} {a : α} {y : Except Failure β}
    (hm : Settles change m (.ok a)) (hf : Settles change (f a) y) : Settles change (m >>= f) y :=
  hm.bind (y := fun _ => y) (by rintro b ⟨⟩; exact hf)

/-- Nothing comes behind a session that settles on a failure. -/
theorem Settles.bind_error {m : Session α} {f : α → Session β} {why : Failure}
    (hm : Settles change m (.error why)) : Settles change (m >>= f) (.error why) :=
  hm.bind (y := fun _ => .error why) (by rintro a ⟨⟩)

/-- From a faithful memory a session that settles on a value has this value. -/
theorem Settles.outcome {m : Session α} {a : α} (hm : Settles change m (.ok a)) {s : SessionState}
    (hs : s.memo.Faithful change.source) : (m s).outcome = .ok a :=
  (hm s hs).1

/-! ## The questions -/

/-- Looks an answer up, or puts the question and remembers what comes of it. -/
def memoized (question : Question) (job : Git.Job α) (post : Except Failure α → Except Failure β)
    (look : Memo → Option (Except Failure β)) (store : Except Failure β → Memo → Memo) :
    Session β := do
  let state ← Run.get
  match look state.memo with
  | some answer => ofExcept answer
  | none => do
    let given ← ask question job
    remember (store (post given))
    ofExcept (post given)

section Memoized

variable {question : Question} {job : Git.Job α} {post : Except Failure α → Except Failure β}
  {look : Memo → Option (Except Failure β)} {store : Except Failure β → Memo → Memo}
  {s : SessionState}

theorem memoized_of_some {answer : Except Failure β} (h : look s.memo = some answer) :
    memoized question job post look store s = ofExcept answer s := by
  rw [memoized, Run.bind_of_ok (a := s) rfl]
  simp only [Run.get, h, List.nil_append]

theorem memoized_of_none (h : look s.memo = none) :
    memoized question job post look store s =
      ⟨(post (job ()).outcome).mapError .failed,
        { s with memo := store (post (job ()).outcome) s.memo },
        .asked question :: (job ()).log.map .commanded⟩ := by
  rw [memoized, Run.bind_of_ok (a := s) rfl]
  simp only [Run.get, h]
  rw [Run.bind_of_ok (a := (job ()).outcome) rfl, Run.bind_of_ok (a := ()) rfl]
  simp [ofExcept_apply, ask_apply, remember, Run.modify]

end Memoized

/-- Looking up an answer or putting the question comes to the same, if what can be looked up is what
the source says and storing that keeps the memory faithful. -/
theorem settles_memoized (question : Question) (job : Git.Job α)
    (post : Except Failure α → Except Failure β) (look : Memo → Option (Except Failure β))
    (store : Except Failure β → Memo → Memo)
    (hlook : ∀ memo answer, memo.Faithful change.source → look memo = some answer →
      answer = post (job ()).outcome)
    (hstore : ∀ memo, memo.Faithful change.source →
      (store (post (job ()).outcome) memo).Faithful change.source) :
    Settles change (memoized question job post look store) (post (job ()).outcome) := by
  intro s hs
  cases hm : look s.memo with
  | some answer =>
    rw [memoized_of_some hm, ← hlook s.memo answer hs hm]
    exact settles_ofExcept answer s hs
  | none =>
    rw [memoized_of_none hm]
    exact ⟨rfl, hstore s.memo hs, rfl⟩

theorem changedFiles_eq_memoized : changedFiles change =
    memoized .changedFiles change.source.changedFiles (Except.map (lastBy (·.path))) Memo.changed
      fun answer memo => { memo with changed := some answer } := by
  unfold changedFiles memoized
  congr 1
  funext state
  cases state.memo.changed <;> rfl

theorem treeFiles_eq_memoized : treeFiles change =
    memoized .treeFiles change.source.treeFiles id Memo.tree
      fun answer memo => { memo with tree := some answer } := by
  unfold treeFiles memoized
  congr 1
  funext state
  cases state.memo.tree <;> rfl

theorem filePatch_eq_memoized (path : Text) : filePatch change path =
    memoized (.filePatch path) (change.source.filePatch path) id (·.patches.lookup path)
      fun answer memo => { memo with patches := (path, answer) :: memo.patches } := by
  unfold filePatch memoized
  congr 1
  funext state
  dsimp only
  cases state.memo.patches.lookup path <;> rfl

theorem settles_changedFiles : Settles change (changedFiles change)
    ((change.source.changedFiles ()).outcome.map (lastBy (·.path))) := by
  rw [changedFiles_eq_memoized]
  refine settles_memoized _ _ _ _ _ (fun _ answer hs => hs.changed answer) ?_
  intro memo hs
  exact ⟨by rintro answer ⟨⟩; rfl, hs.tree, hs.patches⟩

theorem settles_treeFiles :
    Settles change (treeFiles change) (change.source.treeFiles ()).outcome := by
  rw [treeFiles_eq_memoized]
  refine settles_memoized _ _ _ _ _ (fun _ answer hs => hs.tree answer) ?_
  intro memo hs
  exact ⟨hs.changed, by rintro answer ⟨⟩; rfl, hs.patches⟩

theorem settles_tree {x : Except Failure (List Text)}
    (htree : (change.source.treeFiles ()).outcome = x) : Settles change (treeFiles change) x := by
  rw [← htree]
  exact settles_treeFiles

theorem settles_filePatch (path : Text) :
    Settles change (filePatch change path) (change.source.filePatch path ()).outcome := by
  rw [filePatch_eq_memoized]
  refine settles_memoized _ _ _ _ _ (fun _ answer hs => hs.patches path answer) ?_
  intro memo hs
  refine ⟨hs.changed, hs.tree, ?_⟩
  intro other answer h
  rw [List.lookup_cons] at h
  split at h
  · next heq =>
    cases h
    rw [beq_iff_eq.mp heq]
    rfl
  · exact hs.patches other answer h

end Session

/-! ## Statuses, selections and touched ranges -/

/-- The status of a path in a listing of changed files, of which its last entry counts. -/
def listedStatus (listed : List ChangedFile) (path : Text) : Option ChangeStatus :=
  ((lastBy (·.path) listed).find? (·.path = path)).map (·.status)

/-- Whether a range of a path is touched, given the listing and the patch of the path. -/
def touchedBy (listed : List ChangedFile) (patch : Option FilePatch) (path : Text)
    (range : LineRange) : Bool :=
  match listedStatus listed path with
  | none => false
  | some .added => true
  | some _ => patch.any (·.touches range)

namespace Session

theorem settles_treePaths {change : Change} {tree patterns : List Text} {set : PatternSet}
    (htree : (change.source.treeFiles ()).outcome = .ok tree) (hne : patterns ≠ [])
    (hset : PatternSet.compile patterns = .ok set) :
    Settles change (treePaths change patterns) (.ok (tree.filter set.selects)) := by
  refine (settles_tree htree).andThen ?_
  rw [if_neg (by simpa using hne), hset]
  exact settles_pure _

variable {change : Change} {listed : List ChangedFile}
  (hlisted : (change.source.changedFiles ()).outcome = .ok listed)

include hlisted

theorem settles_listing : Settles change (changedFiles change) (.ok (lastBy (·.path) listed)) := by
  have h : Settles change (changedFiles change) _ := settles_changedFiles
  rwa [hlisted] at h

theorem settles_status? (path : Text) :
    Settles change (status? change path) (.ok (listedStatus listed path)) :=
  (settles_listing hlisted).andThen (settles_pure _)

theorem settles_select {patterns : List Text} {set : PatternSet} (hne : patterns ≠ [])
    (hset : PatternSet.compile patterns = .ok set) :
    Settles change (select change patterns)
      (.ok (selections set ((lastBy (·.path) listed).map (·.path)))) := by
  refine (settles_listing hlisted).andThen ?_
  rw [if_neg (by simpa using hne), hset]
  exact settles_pure _

theorem settles_touches {patch : Option FilePatch} {path : Text}
    (hpatch : (change.source.filePatch path ()).outcome = .ok patch) (range : LineRange) :
    Settles change (touches change path range) (.ok (touchedBy listed patch path range)) := by
  have hlines : Settles change (filePatch change path) (.ok patch) := by
    have h : Settles change (filePatch change path) _ := settles_filePatch path
    rwa [hpatch] at h
  refine (settles_status? hlisted path).andThen ?_
  unfold touchedBy
  match listedStatus listed path with
  | none => exact settles_pure _
  | some .added => exact settles_pure _
  | some .deleted => exact hlines.andThen (settles_pure _)
  | some .modified => exact hlines.andThen (settles_pure _)

end Session

/-! ## Sources that answer -/

/-- A source with a working copy that answers every question, and its answers. -/
structure Answering (source : ChangeSource) where
  /-- The directory of the working copy. -/
  root : Text
  /-- The changed files as they are listed. -/
  listed : List ChangedFile
  /-- The changed lines of a path. -/
  patch : Text → Option FilePatch
  /-- The files of the later snapshot. -/
  tree : List Text
  root_eq : source.root = some root
  changedFiles_eq : (source.changedFiles ()).outcome = .ok listed
  filePatch_eq : ∀ path, (source.filePatch path ()).outcome = .ok (patch path)
  treeFiles_eq : (source.treeFiles ()).outcome = .ok tree

namespace Answering

open Session

variable {change : Change} (a : Answering change.source)

/-- The changed files, each path once. -/
def files : List ChangedFile := lastBy (·.path) a.listed

/-- The changed paths, each once. -/
def paths : List Text := a.files.map (·.path)

/-- Whether a range of a file is touched. -/
def touches (path : Text) (range : LineRange) : Bool := touchedBy a.listed (a.patch path) path range

theorem settles_locate (path : Text) :
    Settles change (ofExcept (change.locate path)) (.ok (Path.join a.root path)) := by
  rw [Change.locate, a.root_eq]
  exact settles_ofExcept _

theorem settles_changedFiles : Settles change (changedFiles change) (.ok a.files) :=
  settles_listing a.changedFiles_eq

theorem settles_select {patterns : List Text} {set : PatternSet} (hne : patterns ≠ [])
    (hset : PatternSet.compile patterns = .ok set) :
    Settles change (select change patterns) (.ok (selections set a.paths)) :=
  Session.settles_select a.changedFiles_eq hne hset

theorem settles_touches (path : Text) (range : LineRange) :
    Settles change (Session.touches change path range) (.ok (a.touches path range)) :=
  Session.settles_touches a.changedFiles_eq (a.filePatch_eq path) range

end Answering

end Lockstep
