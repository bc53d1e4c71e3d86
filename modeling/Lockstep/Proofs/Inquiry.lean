import Lockstep.Change.Series
import Lockstep.Proofs.Memory

/-!
# Sessions that only inquire

Most of what a session does is to put questions to its source and to compute with the
answers.  This file says once what such sessions are (`Session.Alike`), and draws the
consequences that hold of all of them, however they are put together.

* `Session.Alike`: two sessions that do the same, one about each of two changes.
* `Session.Alike.settles`: if the two sources give the same answers, both sessions
  settle on the same outcome, a failure perhaps.
* `Session.Alike.accounts`: a question is put exactly when its answer becomes known.
* `Session.Alike.inquires`: nothing is reported, and nothing is written about the progress.
* `Query.putAll_eq_fresh`: in a series of queries each gives what it gives in a session
  of its own, and no question is put to the source twice.
-/

namespace Lockstep

/-! ## What can be seen in a log -/

/-- The violations that were reported, in order. -/
def reported (log : List Event) : List Violation :=
  log.filterMap fun
    | .reported v => some v
    | _ => none

theorem reported_append (log log' : List Event) :
    reported (log ++ log') = reported log ++ reported log' :=
  List.filterMap_append

/-- The lines about the progress that were written, in order. -/
def remarks (log : List Event) : List String :=
  log.filterMap fun
    | .progress line => some line
    | _ => none

theorem remarks_append (log log' : List Event) :
    remarks (log ++ log') = remarks log ++ remarks log' :=
  List.filterMap_append

/-- Whether an event is a question, or a command of the source. -/
def Event.isInquiry : Event → Bool
  | .asked _ | .commanded _ => true
  | .progress _ | .reported _ => false

theorem reported_inquiries {log : List Event} (h : ∀ e ∈ log, e.isInquiry = true) :
    reported log = [] := by
  refine List.filterMap_eq_nil_iff.2 fun e he => ?_
  cases e with
  | reported v => exact absurd (h _ he) Bool.false_ne_true
  | asked question => rfl
  | commanded command => rfl
  | progress line => rfl

theorem remarks_inquiries {log : List Event} (h : ∀ e ∈ log, e.isInquiry = true) :
    remarks log = [] := by
  refine List.filterMap_eq_nil_iff.2 fun e he => ?_
  cases e with
  | progress line => exact absurd (h _ he) Bool.false_ne_true
  | asked question => rfl
  | commanded command => rfl
  | reported v => rfl

theorem isInquiry_commanded (commands : List Git.Command) :
    ∀ e ∈ commands.map Event.commanded, e.isInquiry = true := by
  simp [Event.isInquiry]

/-- Commands of the source are neither questions nor reports. -/
theorem count_commanded (question : Question) (commands : List Git.Command) :
    (commands.map Event.commanded).count (.asked question) = 0 := by
  rw [List.count_eq_zero]
  simp

/-! ## What is known -/

/-- Whether the answer to a question is remembered. -/
def Memo.knows (memo : Memo) : Question → Bool
  | .changedFiles => memo.changed.isSome
  | .treeFiles => memo.tree.isSome
  | .filePatch path => (memo.patches.lookup path).isSome

/-- Sources that give the same answers, whatever commands they give for that. -/
structure ChangeSource.Agrees (source source' : ChangeSource) : Prop where
  root : source.root = source'.root
  changedFiles : (source.changedFiles ()).outcome = (source'.changedFiles ()).outcome
  treeFiles : (source.treeFiles ()).outcome = (source'.treeFiles ()).outcome
  filePatch : ∀ path, (source.filePatch path ()).outcome = (source'.filePatch path ()).outcome

theorem ChangeSource.Agrees.refl (source : ChangeSource) : source.Agrees source :=
  ⟨rfl, rfl, rfl, fun _ => rfl⟩

namespace Session

/-- Two sessions that do the same, one about each of two changes: they put the same questions and go
on in the same way from the answers. -/
inductive Alike (change change' : Change) : {α : Type} → Session α → Session α → Prop
  | ofExcept {α : Type} (x : Except Failure α) : Alike change change' (ofExcept x) (ofExcept x)
  | changedFiles : Alike change change' (changedFiles change) (changedFiles change')
  | treeFiles : Alike change change' (treeFiles change) (treeFiles change')
  | filePatch (path : Text) : Alike change change' (filePatch change path) (filePatch change' path)
  | bind {α β : Type} {m m' : Session α} {f f' : α → Session β} (hm : Alike change change' m m')
      (hf : ∀ a, Alike change change' (f a) (f' a)) : Alike change change' (m >>= f) (m' >>= f')

variable {change change' : Change} {α β : Type} {m m' : Session α}

theorem Alike.pure (a : α) : Alike change change' (pure a) (pure a) := .ofExcept (.ok a)

/-! ## The same outcome -/

/-- Sessions that do the same settle on the same outcome, if the sources give the same answers. -/
theorem Alike.settles (h : Alike change change' m m')
    (hagree : change.source.Agrees change'.source) :
    ∃ x, Settles change m x ∧ Settles change' m' x := by
  induction h with
  | ofExcept x => exact ⟨x, settles_ofExcept x, settles_ofExcept x⟩
  | changedFiles =>
    refine ⟨_, settles_changedFiles, ?_⟩
    rw [hagree.changedFiles]
    exact settles_changedFiles
  | treeFiles =>
    refine ⟨_, settles_treeFiles, ?_⟩
    rw [hagree.treeFiles]
    exact settles_treeFiles
  | filePatch path =>
    refine ⟨_, settles_filePatch path, ?_⟩
    rw [hagree.filePatch]
    exact settles_filePatch path
  | bind _ _ ihm ihf =>
    obtain ⟨x, hx, hx'⟩ := ihm
    choose y hy hy' using ihf
    exact ⟨x >>= y, hx.bind fun a _ => hy a, hx'.bind fun a _ => hy' a⟩

/-- There is only one outcome to settle on. -/
theorem Settles.unique {x y : Except Failure α} (hx : Settles change m x)
    (hy : Settles change m y) : x = y := by
  have heq : x.mapError Stop.failed = y.mapError Stop.failed :=
    (hx {} (Memo.faithful_empty _)).1.symm.trans (hy {} (Memo.faithful_empty _)).1
  cases x <;> cases y <;> simp_all [Except.mapError]

/-! ## Every question at most once -/

/-- What is known at the end is what was known at the start and what was asked in between. -/
def Accounts (m : Session α) : Prop :=
  ∀ (s : SessionState) (question : Question),
    (s.memo.knows question).toNat + (m s).log.count (.asked question) =
      ((m s).state.memo.knows question).toNat

theorem accounts_ofExcept (x : Except Failure α) : Accounts (ofExcept x) := by
  intro s question
  rw [ofExcept_apply]
  rfl

theorem Accounts.bind {f : α → Session β} (hm : Accounts m) (hf : ∀ a, Accounts (f a)) :
    Accounts (m >>= f) := by
  intro s question
  have hfirst := hm s question
  cases hout : (m s).outcome with
  | error why =>
    rw [Run.bind_of_error hout]
    exact hfirst
  | ok a =>
    have hsecond := hf a (m s).state question
    rw [Run.bind_of_ok hout]
    simp only [List.count_append]
    omega

/-- A question is put if its answer is not known, and then it is. -/
theorem accounts_memoized (question : Question) (job : Git.Job α)
    (post : Except Failure α → Except Failure β) (look : Memo → Option (Except Failure β))
    (store : Except Failure β → Memo → Memo)
    (hlook : ∀ memo, memo.knows question = (look memo).isSome)
    (hstore : ∀ answer memo other, (store answer memo).knows other =
      (decide (other = question) || memo.knows other)) :
    Accounts (memoized question job post look store) := by
  intro s other
  cases hm : look s.memo with
  | some answer =>
    rw [memoized_of_some hm]
    exact accounts_ofExcept answer s other
  | none =>
    have hunknown : s.memo.knows question = false := by rw [hlook, hm]; rfl
    rw [memoized_of_none hm]
    simp only [hstore, List.count_cons, count_commanded]
    by_cases hother : other = question
    · subst hother
      simp [hunknown]
    · simp [hother, Ne.symm hother]

theorem Alike.accounts (h : Alike change change' m m') : Accounts m := by
  induction h with
  | ofExcept x => exact accounts_ofExcept x
  | changedFiles =>
    rw [changedFiles_eq_memoized]
    refine accounts_memoized _ _ _ _ _ (fun memo => rfl) ?_
    intro answer memo other
    cases other <;> simp [Memo.knows]
  | treeFiles =>
    rw [treeFiles_eq_memoized]
    refine accounts_memoized _ _ _ _ _ (fun memo => rfl) ?_
    intro answer memo other
    cases other <;> simp [Memo.knows]
  | filePatch path =>
    rw [filePatch_eq_memoized]
    refine accounts_memoized _ _ _ _ _ (fun memo => rfl) ?_
    intro answer memo other
    cases other with
    | changedFiles => simp [Memo.knows]
    | treeFiles => simp [Memo.knows]
    | filePatch other =>
      rw [Memo.knows, List.lookup_cons]
      by_cases hother : other = path
      · simp [hother]
      · simp [hother, beq_false_of_ne hother, Memo.knows]
  | bind _ _ ihm ihf => exact ihm.bind ihf

/-! ## No reports -/

/-- A session of which nothing is seen but questions and commands. -/
def Inquires (m : Session α) : Prop := ∀ s, ∀ e ∈ (m s).log, e.isInquiry = true

theorem inquires_ofExcept (x : Except Failure α) : Inquires (ofExcept x) := by
  intro s e he
  rw [ofExcept_apply] at he
  cases he

theorem Inquires.bind {f : α → Session β} (hm : Inquires m) (hf : ∀ a, Inquires (f a)) :
    Inquires (m >>= f) := by
  intro s e he
  cases hout : (m s).outcome with
  | error why =>
    rw [Run.bind_of_error hout] at he
    exact hm s e he
  | ok a =>
    rw [Run.bind_of_ok hout] at he
    exact (List.mem_append.1 he).elim (hm s e) (hf a _ e)

theorem inquires_memoized (question : Question) (job : Git.Job α)
    (post : Except Failure α → Except Failure β) (look : Memo → Option (Except Failure β))
    (store : Except Failure β → Memo → Memo) :
    Inquires (memoized question job post look store) := by
  intro s
  cases hm : look s.memo with
  | some answer =>
    rw [memoized_of_some hm]
    exact inquires_ofExcept answer s
  | none =>
    rw [memoized_of_none hm]
    exact List.forall_mem_cons.2 ⟨rfl, isInquiry_commanded _⟩

theorem Alike.inquires (h : Alike change change' m m') : Inquires m := by
  induction h with
  | ofExcept x => exact inquires_ofExcept x
  | changedFiles =>
    rw [changedFiles_eq_memoized]
    exact inquires_memoized _ _ _ _ _
  | treeFiles =>
    rw [treeFiles_eq_memoized]
    exact inquires_memoized _ _ _ _ _
  | filePatch path =>
    rw [filePatch_eq_memoized]
    exact inquires_memoized _ _ _ _ _
  | bind _ _ ihm ihf => exact ihm.bind ihf

/-- Who only inquires reports nothing. -/
theorem Alike.reported (h : Alike change change' m m') (s : SessionState) :
    reported (m s).log = [] :=
  reported_inquiries (h.inquires s)

/-! ## The queries -/

theorem alike_select (patterns : List Text) :
    Alike change change' (select change patterns) (select change' patterns) := by
  refine .bind .changedFiles fun files => ?_
  dsimp only
  split
  · exact .pure _
  · exact .bind (.ofExcept _) fun set => .pure _

theorem alike_treePaths (patterns : List Text) :
    Alike change change' (treePaths change patterns) (treePaths change' patterns) := by
  refine .bind .treeFiles fun files => ?_
  split
  · exact .pure _
  · exact .bind (.ofExcept _) fun set => .pure _

theorem alike_status? (path : Text) :
    Alike change change' (status? change path) (status? change' path) :=
  .bind .changedFiles fun _ => .pure _

theorem alike_touches (path : Text) (range : LineRange) :
    Alike change change' (touches change path range) (touches change' path range) := by
  refine .bind (alike_status? path) fun status => ?_
  match status with
  | none => exact .pure _
  | some .added => exact .pure _
  | some .deleted => exact .bind (.filePatch path) fun _ => .pure _
  | some .modified => exact .bind (.filePatch path) fun _ => .pure _

theorem alike_isDeleted (path : Text) :
    Alike change change' (isDeleted change path) (isDeleted change' path) :=
  .bind (alike_status? path) fun _ => .pure _

theorem alike_locate (hroot : change.source.root = change'.source.root) (path : Text) :
    Alike change change' (ofExcept (change.locate path)) (ofExcept (change'.locate path)) := by
  rw [Change.locate, Change.locate, hroot]
  exact .ofExcept _

end Session

/-! ## Series of queries -/

namespace Query

open Session

variable (change : Change)

theorem alike_put (q : Query) : Alike change change (q.put change) (q.put change) := by
  match q with
  | .select _ (some 0) => exact .pure _
  | .select patterns none => exact .bind (alike_select patterns) fun _ => .pure _
  | .select patterns (some (n + 1)) => exact .bind (alike_select patterns) fun _ => .pure _
  | .treePaths patterns => exact .bind (alike_treePaths patterns) fun _ => .pure _
  | .touches path range => exact .bind (alike_touches path range) fun _ => .pure _
  | .isDeleted path => exact .bind (alike_isDeleted path) fun _ => .pure _
  | .isExempt path => exact .pure _
  | .locate path => exact .bind (alike_locate rfl path) fun _ => .pure _

/-- What a query gives depends on nothing that was asked before. -/
theorem put_eq_fresh (q : Query) {s : SessionState} (hs : s.memo.Faithful change.source) :
    (q.put change s).outcome = (q.put change {}).outcome ∧
      (q.put change s).state.memo.Faithful change.source := by
  obtain ⟨x, hx, -⟩ := (alike_put change q).settles (.refl _)
  obtain ⟨hout, hmemo, -⟩ := hx s hs
  obtain ⟨hfresh, -, -⟩ := hx {} (Memo.faithful_empty _)
  exact ⟨hout.trans hfresh.symm, hmemo⟩

theorem outcome_putAll (qs : List Query) {s : SessionState} (hs : s.memo.Faithful change.source) :
    (putAll change qs s).map (·.outcome) = qs.map fun q => (q.put change {}).outcome := by
  induction qs generalizing s with
  | nil => rfl
  | cons q qs ih =>
    obtain ⟨hout, hmemo⟩ := put_eq_fresh change q hs
    rw [putAll, List.map_cons, List.map_cons, hout, ih hmemo]

/-- Of all questions that are put in a series, none was known before and none is put twice. -/
theorem count_asked_putAll (qs : List Query) (s : SessionState) (question : Question) :
    (s.memo.knows question).toNat +
      ((putAll change qs s).flatMap (·.log)).count (.asked question) ≤ 1 := by
  induction qs generalizing s with
  | nil => exact Bool.toNat_le _
  | cons q qs ih =>
    have hfirst := (alike_put change q).accounts s question
    have hrest := ih (q.put change s).state
    rw [putAll, List.flatMap_cons, List.count_append]
    omega

/-- In a series of queries, whatever they are and however the source answers, each one gives what it
gives in a session of its own, be it a failure; and no question is put to the source twice. -/
theorem putAll_eq_fresh (queries : List Query) :
    (putAll change queries {}).map (·.outcome) = queries.map (fun q => (q.put change {}).outcome) ∧
      ∀ question, ((putAll change queries {}).flatMap (·.log)).count (.asked question) ≤ 1 := by
  refine ⟨outcome_putAll change queries (Memo.faithful_empty _), fun question => ?_⟩
  exact Nat.le_trans (Nat.le_add_left _ _) (count_asked_putAll change queries {} question)

end Query

end Lockstep
