import Lockstep.Check.Program
import Lockstep.Proofs.WholeCheck

/-!
# Stopping early

Somebody who waits for so many violations stops the session behind the last of them.
This file shows that all they miss is the rest: what they see is the beginning of what
is seen by those who wait for everything, and no question is put and no failure is met
that comes later (`Check.runUpTo_goThrough`).

* `Session.Heedless`: a session that takes no notice of who is waiting.  Sessions that
  only inquire are of this kind (`Session.Alike.heedless`).
* `Session.Stops`: a session that does the same for everybody, up to the last violation
  that is waited for.  Sessions of this kind can be put one after the other
  (`Session.Stops.bind`): what the first one leaves of the allowance is what the second
  one has.
* `Session.Narrates`: a session that is put together from inquiries, lines about the
  progress and reports, as checks and scans are (`Check.narrates_goThrough`).  All such
  sessions stop in time, and write no line about the progress unless they are verbose.
-/

namespace Lockstep

namespace Session

variable {change change' : Change} {α β : Type} {m : Session α}

/-! ## Sessions that take no notice -/

/-- A session that goes the same way whoever is waiting, and never ends because it is enough. -/
structure Heedless (m : Session α) : Prop where
  same : ∀ memo allowance, m ⟨memo, allowance⟩ =
    ⟨(m ⟨memo, none⟩).outcome, ⟨(m ⟨memo, none⟩).state.memo, allowance⟩, (m ⟨memo, none⟩).log⟩
  goesOn : ∀ memo, (m ⟨memo, none⟩).outcome ≠ .error .enough

theorem heedless_ofExcept (x : Except Failure α) : Heedless (ofExcept x) where
  same := by
    intro memo allowance
    rw [ofExcept_apply, ofExcept_apply]
  goesOn := by
    intro memo
    rw [ofExcept_apply]
    cases x with
    | error why => rintro ⟨⟩
    | ok a => rintro ⟨⟩

theorem Heedless.bind {f : α → Session β} (hm : Heedless m) (hf : ∀ a, Heedless (f a)) :
    Heedless (m >>= f) where
  same := by
    intro memo allowance
    have hfirst := hm.same memo allowance
    have hnone := hm.same memo none
    cases hout : (m ⟨memo, none⟩).outcome with
    | error why =>
      have hout' : (m ⟨memo, allowance⟩).outcome = .error why := by rw [hfirst, hout]
      rw [Run.bind_of_error hout, Run.bind_of_error hout', hfirst]
    | ok a =>
      have hout' : (m ⟨memo, allowance⟩).outcome = .ok a := by rw [hfirst, hout]
      have hstate : (m ⟨memo, none⟩).state = ⟨(m ⟨memo, none⟩).state.memo, none⟩ := by rw [hnone]
      rw [Run.bind_of_ok hout, Run.bind_of_ok hout', hfirst, hstate, (hf a).same _ allowance]
  goesOn := by
    intro memo
    cases hout : (m ⟨memo, none⟩).outcome with
    | error why =>
      intro h
      rw [Run.bind_of_error hout] at h
      cases h
      exact hm.goesOn memo hout
    | ok a =>
      have hstate : (m ⟨memo, none⟩).state = ⟨(m ⟨memo, none⟩).state.memo, none⟩ := by
        rw [hm.same memo none]
      rw [Run.bind_of_ok hout, hstate]
      exact (hf a).goesOn _

theorem heedless_memoized (question : Question) (job : Git.Job α)
    (post : Except Failure α → Except Failure β) (look : Memo → Option (Except Failure β))
    (store : Except Failure β → Memo → Memo) :
    Heedless (memoized question job post look store) where
  same := by
    intro memo allowance
    cases hlook : look memo with
    | some answer =>
      rw [memoized_of_some (s := ⟨memo, allowance⟩) hlook,
        memoized_of_some (s := ⟨memo, none⟩) hlook]
      exact (heedless_ofExcept answer).same memo allowance
    | none =>
      rw [memoized_of_none (s := ⟨memo, allowance⟩) hlook,
        memoized_of_none (s := ⟨memo, none⟩) hlook]
  goesOn := by
    intro memo
    cases hlook : look memo with
    | some answer =>
      rw [memoized_of_some (s := ⟨memo, none⟩) hlook]
      exact (heedless_ofExcept answer).goesOn memo
    | none =>
      rw [memoized_of_none (s := ⟨memo, none⟩) hlook]
      cases post (job ()).outcome with
      | error why => rintro ⟨⟩
      | ok b => rintro ⟨⟩

/-- Who only inquires takes no notice of who is waiting. -/
theorem Alike.heedless {m' : Session α} (h : Alike change change' m m') : Heedless m := by
  induction h with
  | ofExcept x => exact heedless_ofExcept x
  | changedFiles =>
    rw [changedFiles_eq_memoized]
    exact heedless_memoized ..
  | treeFiles =>
    rw [treeFiles_eq_memoized]
    exact heedless_memoized ..
  | filePatch path =>
    rw [filePatch_eq_memoized]
    exact heedless_memoized ..
  | bind _ _ ihm ihf => exact ihm.bind ihf

/-! ## Sessions that stop in time -/

/-- A log that breaks off at the violation with the number `n` of a longer one. -/
structure BreaksOff (n : Nat) (log full : List Event) : Prop where
  isPrefix : log <+: full
  ends : ∃ before v, log = before ++ [.reported v]
  count : (reported log).length = n

/-- Where a log breaks off, so do the violations in it. -/
theorem BreaksOff.reported_eq {n : Nat} {log full : List Event} (h : BreaksOff n log full) :
    reported log = (reported full).take n := by
  have hprefix : reported log <+: reported full := h.isPrefix.filterMap _
  rw [← h.count]
  exact List.prefix_iff_eq_take.1 hprefix

theorem BreaksOff.append_right {n : Nat} {log full : List Event} (h : BreaksOff n log full)
    (more : List Event) : BreaksOff n log (full ++ more) :=
  ⟨h.isPrefix.trans (List.prefix_append full more), h.ends, h.count⟩

theorem BreaksOff.append_left {n k : Nat} {log full first : List Event} (h : BreaksOff n log full)
    (hk : (reported first).length + n = k) : BreaksOff k (first ++ log) (first ++ full) where
  isPrefix := (List.prefix_append_right_inj first).2 h.isPrefix
  ends := by
    obtain ⟨before, v, hlog⟩ := h.ends
    exact ⟨first ++ before, v, by rw [hlog, List.append_assoc]⟩
  count := by
    rw [reported_append, List.length_append, h.count, hk]

/-- A session that does for somebody who waits for `n + 1` violations what it does for everybody:
all of it if there are fewer, and otherwise all up to the last one that is waited for. -/
structure Stops (m : Session α) : Prop where
  allowance : ∀ memo, (m ⟨memo, none⟩).state.allowance = none
  goesOn : ∀ memo, (m ⟨memo, none⟩).outcome ≠ .error .enough
  fewer : ∀ memo n, (reported (m ⟨memo, none⟩).log).length ≤ n → m ⟨memo, some (n + 1)⟩ =
    ⟨(m ⟨memo, none⟩).outcome,
      ⟨(m ⟨memo, none⟩).state.memo, some (n + 1 - (reported (m ⟨memo, none⟩).log).length)⟩,
      (m ⟨memo, none⟩).log⟩
  more : ∀ memo n, n < (reported (m ⟨memo, none⟩).log).length →
    (m ⟨memo, some (n + 1)⟩).outcome = .error .enough ∧
      BreaksOff (n + 1) (m ⟨memo, some (n + 1)⟩).log (m ⟨memo, none⟩).log

theorem Heedless.stops (h : Heedless m) (hquiet : ∀ s, reported (m s).log = []) : Stops m where
  allowance := by
    intro memo
    rw [h.same memo none]
  goesOn := h.goesOn
  fewer := by
    intro memo n _
    rw [h.same memo (some (n + 1)), hquiet]
    rfl
  more := by
    intro memo n hlt
    rw [hquiet] at hlt
    cases hlt

/-- Who only inquires reports nothing, so there is nothing to stop behind. -/
theorem Alike.stops (h : Alike change change m m) : Stops m := h.heedless.stops h.reported

theorem stops_progress (verbose : Bool) (line : String) : Stops (progress verbose line) := by
  cases verbose with
  | true => exact Heedless.stops ⟨fun _ _ => rfl, fun _ => nofun⟩ fun _ => rfl
  | false => exact Heedless.stops ⟨fun _ _ => rfl, fun _ => nofun⟩ fun _ => rfl

theorem stops_report (v : Violation) : Stops (report v) where
  allowance := fun _ => rfl
  goesOn := fun _ => nofun
  fewer := by
    intro memo n hle
    have hone : (reported (report v ⟨memo, none⟩).log).length = 1 := rfl
    rw [hone] at hle ⊢
    obtain ⟨k, rfl⟩ := Nat.exists_eq_add_of_le' hle
    rfl
  more := by
    intro memo n hlt
    have hone : (reported (report v ⟨memo, none⟩).log).length = 1 := rfl
    obtain rfl : n = 0 := by omega
    exact ⟨rfl, List.prefix_rfl, ⟨[], v, rfl⟩, rfl⟩

/-- The state behind a session for which nobody is waiting. -/
theorem Stops.state_eq (hm : Stops m) (memo : Memo) :
    (m ⟨memo, none⟩).state = ⟨(m ⟨memo, none⟩).state.memo, none⟩ :=
  congrArg (SessionState.mk _) (hm.allowance memo)

/-- Sessions one after the other.  The first one may stop; if it does not, the second one has what
is left of the allowance. -/
theorem Stops.bind {f : α → Session β} (hm : Stops m) (hf : ∀ a, Stops (f a)) :
    Stops (m >>= f) where
  allowance := by
    intro memo
    cases hout : (m ⟨memo, none⟩).outcome with
    | error why =>
      rw [Run.bind_of_error hout]
      exact hm.allowance memo
    | ok a =>
      rw [Run.bind_of_ok hout, hm.state_eq memo]
      exact (hf a).allowance _
  goesOn := by
    intro memo
    cases hout : (m ⟨memo, none⟩).outcome with
    | error why =>
      intro h
      rw [Run.bind_of_error hout] at h
      cases h
      exact hm.goesOn memo hout
    | ok a =>
      rw [Run.bind_of_ok hout, hm.state_eq memo]
      exact (hf a).goesOn _
  fewer := by
    intro memo n hle
    cases hout : (m ⟨memo, none⟩).outcome with
    | error why =>
      rw [Run.bind_of_error hout] at hle ⊢
      have hpart := hm.fewer memo n hle
      have hout' : (m ⟨memo, some (n + 1)⟩).outcome = .error why := by rw [hpart, hout]
      rw [Run.bind_of_error hout', hpart]
    | ok a =>
      rw [Run.bind_of_ok hout, hm.state_eq memo] at hle ⊢
      simp only [reported_append, List.length_append] at hle ⊢
      have hpart := hm.fewer memo n (by omega)
      have hout' : (m ⟨memo, some (n + 1)⟩).outcome = .ok a := by rw [hpart, hout]
      have hleft : n + 1 - (reported (m ⟨memo, none⟩).log).length =
          n - (reported (m ⟨memo, none⟩).log).length + 1 := by omega
      have hrest : n + 1 - ((reported (m ⟨memo, none⟩).log).length +
            (reported (f a ⟨(m ⟨memo, none⟩).state.memo, none⟩).log).length) =
          n - (reported (m ⟨memo, none⟩).log).length + 1 -
            (reported (f a ⟨(m ⟨memo, none⟩).state.memo, none⟩).log).length := by omega
      rw [Run.bind_of_ok hout', hpart, hleft, (hf a).fewer _ _ (by omega), hrest]
  more := by
    intro memo n hlt
    cases hout : (m ⟨memo, none⟩).outcome with
    | error why =>
      rw [Run.bind_of_error hout] at hlt ⊢
      obtain ⟨henough, hbreaks⟩ := hm.more memo n hlt
      rw [Run.bind_of_error henough]
      exact ⟨rfl, hbreaks⟩
    | ok a =>
      rw [Run.bind_of_ok hout, hm.state_eq memo] at hlt ⊢
      simp only [reported_append, List.length_append] at hlt
      rcases Nat.lt_or_ge n (reported (m ⟨memo, none⟩).log).length with hfirst | hfirst
      · -- it is enough before the second session begins
        obtain ⟨henough, hbreaks⟩ := hm.more memo n hfirst
        rw [Run.bind_of_error henough]
        exact ⟨rfl, hbreaks.append_right _⟩
      · have hpart := hm.fewer memo n hfirst
        have hout' : (m ⟨memo, some (n + 1)⟩).outcome = .ok a := by rw [hpart, hout]
        have hleft : n + 1 - (reported (m ⟨memo, none⟩).log).length =
            n - (reported (m ⟨memo, none⟩).log).length + 1 := by omega
        obtain ⟨henough, hbreaks⟩ := (hf a).more (m ⟨memo, none⟩).state.memo
          (n - (reported (m ⟨memo, none⟩).log).length) (by omega)
        have hcount : (reported (m ⟨memo, none⟩).log).length +
            (n - (reported (m ⟨memo, none⟩).log).length + 1) = n + 1 := by omega
        rw [Run.bind_of_ok hout', hpart, hleft]
        exact ⟨henough, hbreaks.append_left hcount⟩

/-! ## Sessions that tell of themselves -/

/-- A session that is put together from inquiries, lines about the progress and reports.  The lines
are written if it is verbose. -/
inductive Narrates (change : Change) (verbose : Bool) : {α : Type} → Session α → Prop
  | inquiry {α : Type} {m : Session α} (h : Alike change change m m) : Narrates change verbose m
  | progress (line : String) : Narrates change verbose (progress verbose line)
  | report (v : Violation) : Narrates change verbose (report v)
  | bind {α β : Type} {m : Session α} {f : α → Session β} (hm : Narrates change verbose m)
      (hf : ∀ a, Narrates change verbose (f a)) : Narrates change verbose (m >>= f)

theorem Narrates.stops {verbose : Bool} (h : Narrates change verbose m) : Stops m := by
  induction h with
  | inquiry h => exact h.stops
  | progress line => exact stops_progress verbose line
  | report v => exact stops_report v
  | bind _ _ ihm ihf => exact ihm.bind ihf

/-- Nothing but violations comes from a session that is not verbose. -/
theorem Narrates.remarks_eq_nil (h : Narrates change false m) (s : SessionState) :
    remarks (m s).log = [] := by
  induction h generalizing s with
  | inquiry h => exact remarks_inquiries (h.inquires s)
  | progress line => rfl
  | report v =>
    obtain ⟨memo, _ | _ | _ | n⟩ := s <;> rfl
  | @bind _ _ m f _ _ ihm ihf =>
    cases hout : (m s).outcome with
    | error why =>
      rw [Run.bind_of_error hout]
      exact ihm s
    | ok a =>
      rw [Run.bind_of_ok hout, remarks_append, ihm, ihf]
      rfl

end Session

/-! ## Checks and scans -/

namespace Check

open Session

variable (change : Change) (disk : FileTree) (verbose : Bool)

theorem narrates_reportAll (vs : List Violation) : Narrates change verbose (reportAll vs) := by
  induction vs with
  | nil => exact .inquiry (.pure ())
  | cons v vs ih => exact .bind (.report v) fun _ => ih

theorem narrates_visitPresent (file : Text) :
    Narrates change verbose (visitPresent change disk verbose file) := by
  refine .bind (.inquiry (alike_locate rfl file)) fun place => ?_
  refine .bind (.inquiry (.ofExcept _)) fun isDirectory => ?_
  cases isDirectory with
  | true => exact .progress _
  | false =>
    refine .bind (.progress _) fun _ => ?_
    exact .bind (.inquiry (alike_checkFile disk rfl file)) (narrates_reportAll change verbose)

theorem narrates_visit (file : Text) :
    Narrates change verbose (visit change disk verbose file) := by
  unfold visit
  split
  · exact .progress _
  · refine .bind (.inquiry (alike_isDeleted file)) fun isDeleted => ?_
    cases isDeleted with
    | true => exact .progress _
    | false => exact narrates_visitPresent change disk verbose file

theorem narrates_visitAll (found : List Selection) :
    Narrates change verbose (visitAll change disk verbose found) := by
  induction found with
  | nil => exact .inquiry (.pure ())
  | cons selection found ih =>
    cases selection with
    | unused pattern => exact .bind (.progress _) fun _ => ih
    | path file => exact .bind (narrates_visit change disk verbose file) fun _ => ih

theorem narrates_scanFileBy (worth : Text → Bool) (file : Text) :
    Narrates change verbose (scanFileBy worth change disk verbose file) := by
  refine .bind (.inquiry (alike_locate rfl file)) fun place => ?_
  split
  · exact .progress _
  · exact .progress _
  · next fault _ _ _ => exact .inquiry (.ofExcept (.error (.file fault)))
  · split
    · exact .bind (.progress _) fun _ => narrates_reportAll change verbose _
    · exact .inquiry (.pure ())

theorem narrates_scanFilesBy (worth : Text → Bool) (files : List Text) :
    Narrates change verbose (scanFilesBy worth change disk verbose files) := by
  induction files with
  | nil => exact .inquiry (.pure ())
  | cons file files ih =>
    exact .bind (narrates_scanFileBy change disk verbose worth file) fun _ => ih

/-- A check and a scan alike tell of themselves, the lines about the progress if they are to. -/
theorem narrates_goThrough (task : Task) :
    Narrates change task.verbose (goThrough change disk task) := by
  unfold goThrough
  split
  · exact .bind (.inquiry (alike_treePaths task.patterns))
      (narrates_scanFilesBy change disk task.verbose hasMarker)
  · exact .bind (.inquiry (alike_select task.patterns))
      (narrates_visitAll change disk task.verbose)

/-! ## How much is seen -/

/-- Whoever waits for `n` violations of a check or a scan sees the beginning of what there is to
see, violations, lines about the progress and questions alike.  Waiting for none, nothing is run.
If there are `n` violations, the log breaks off at the last of them and what fails later is not met;
if there are fewer, everything is seen, a failure included. -/
theorem runUpTo_goThrough (change : Change) (disk : FileTree) (task : Task) (n : Nat) :
    let full := runUpTo none (goThrough change disk task)
    let part := runUpTo (some n) (goThrough change disk task)
    part.log <+: full.log ∧
      (n = 0 → part.outcome = .ok () ∧ part.log = []) ∧
      (0 < n → n ≤ (reported full.log).length → part.outcome = .error .enough ∧
        reported part.log = (reported full.log).take n ∧
          ∃ before v, part.log = before ++ [.reported v]) ∧
      ((reported full.log).length < n → part.outcome = full.outcome ∧ part.log = full.log) := by
  have hstops := (narrates_goThrough change disk task).stops
  cases n with
  | zero => exact ⟨List.nil_prefix, fun _ => ⟨rfl, rfl⟩, fun h => absurd h (Nat.lt_irrefl 0),
      fun h => absurd h (Nat.not_lt_zero _)⟩
  | succ n =>
    intro full part
    refine ⟨?_, fun h => absurd h (Nat.succ_ne_zero n), fun _ hle => ?_, fun hlt => ?_⟩
    · rcases Nat.lt_or_ge n (reported full.log).length with hmore | hfewer
      · exact (hstops.more {} n hmore).2.isPrefix
      · have hpart : part = _ := hstops.fewer {} n hfewer
        rw [hpart]
        exact List.prefix_rfl
    · obtain ⟨henough, hbreaks⟩ := hstops.more {} n hle
      exact ⟨henough, hbreaks.reported_eq, hbreaks.ends⟩
    · have hpart : part = _ := hstops.fewer {} n (Nat.le_of_lt_succ hlt)
      rw [hpart]
      exact ⟨rfl, rfl⟩

/-- A change to two files with the same text.  The lines of the second one cannot be told. -/
def untoldSource : ChangeSource where
  root := some "/repo".toList
  exemptPatterns := []
  changedFiles := pure [⟨['a'], .added⟩, ⟨['b'], .modified⟩]
  filePatch := fun _ => Run.stop (.other "no lines".toList)
  treeFiles := pure [['a'], ['b'], ['x']]

/-- Waiting for one violation does not lead to the failure behind it; waiting for two does. -/
theorem runUpTo_goThrough_untold :
    let run :=
      fun limit => runUpTo limit (goThrough ⟨untoldSource, []⟩ siblingDisk { verbose := true })
    (run none).outcome = .error (.failed (.other "no lines".toList)) ∧
      (run none).log =
        [.asked .changedFiles, .progress "Checking changed file: a", .asked .treeFiles,
        .reported (.untouched ['x'] ⟨['a'], 2⟩), .progress "Checking changed file: b",
        .asked (.filePatch ['b'])] ∧
      (run (some 1)).outcome = .error .enough ∧
      reported (run (some 1)).log = [.untouched ['x'] ⟨['a'], 2⟩] ∧
      (run (some 2)).outcome = (run none).outcome ∧ (run (some 2)).log = (run none).log := by
  intro run
  have hfailed : (run none).outcome = .error (.failed (.other "no lines".toList)) := by
    decide +kernel
  have hfull : (run none).log = [.asked .changedFiles, .progress "Checking changed file: a",
      .asked .treeFiles, .reported (.untouched ['x'] ⟨['a'], 2⟩),
      .progress "Checking changed file: b", .asked (.filePatch ['b'])] := by decide +kernel
  have hreported : reported (run none).log = [.untouched ['x'] ⟨['a'], 2⟩] := by rw [hfull]; rfl
  obtain ⟨-, -, hone, -⟩ := runUpTo_goThrough ⟨untoldSource, []⟩ siblingDisk { verbose := true } 1
  obtain ⟨-, -, -, htwo⟩ := runUpTo_goThrough ⟨untoldSource, []⟩ siblingDisk { verbose := true } 2
  obtain ⟨henough, htake, -⟩ := hone Nat.one_pos (by rw [hreported]; exact Nat.le_refl 1)
  refine ⟨hfailed, hfull, henough, ?_, htwo (by rw [hreported]; exact Nat.one_lt_two)⟩
  rw [htake, hreported]
  rfl

end Check

end Lockstep
