import Lockstep.Cli.Program
import Lockstep.Git.Script
import Lockstep.Proofs.Arguments
import Lockstep.Proofs.EarlyStop

/-!
# What the exit code tells

The program reads its arguments, opens the repository, checks or scans, and at the end
there is a number.  This file says what can be concluded from that number, and what
stands in the error stream by then (`Cli.run_exit`).

* `Check.perform_ends`: a run comes to its end or fails.  Nobody stops it early.
* `Check.perform_of_open`: once the repository is open, a run is the check or the scan
  behind the commands that opened it.
* `Cli.Shows`: a text that holds the messages of violations, and lines about the progress
  between them.  What a run writes shows what it yields (`Cli.runWith_of_open`).
* `Cli.run_exit_eq_two_iff`, `Cli.run_exit_eq_one_iff`, `Cli.run_warn`: the other parts of
  the main result.
-/

namespace Lockstep

/-! ## A whole run, part by part -/

theorem Session.embed_apply (job : Git.Job α) (s : SessionState) :
    embed job s = ⟨(job ()).outcome.mapError .failed, s, (job ()).log.map .commanded⟩ := by
  have hlog : (job ()).log.map Event.commanded ++ [] = (job ()).log.map .commanded :=
    List.append_nil _
  rw [embed, Run.bind_of_ok (a := ()) rfl, ofExcept_apply]
  simp only [Run.noteAll, hlog]

namespace Check

open Session

variable {host : Git.Host} {directory : Text} {task : Task} (disk : FileTree)

/-- A run that cannot open the repository fails, and nothing was seen of it but commands. -/
theorem perform_of_not_open {why : Failure}
    (hopen : (Git.Repository.open host directory task.range ()).outcome = .error why) :
    perform host disk directory task {} = ⟨.error (.failed why), {},
      (Git.Repository.open host directory task.range ()).log.map .commanded⟩ := by
  have hfirst : (embed (Git.Repository.open host directory task.range) {}).outcome =
      .error (.failed why) := by
    rw [embed_apply, hopen]
    rfl
  rw [perform, Run.bind_of_error hfirst, embed_apply]

section Opened

variable {r : Git.Repository}
  (hopen : (Git.Repository.open host directory task.range ()).outcome = .ok r)

include hopen

theorem outcome_embed_open :
    (embed (Git.Repository.open host directory task.range) {}).outcome = .ok r := by
  rw [embed_apply, hopen]
  rfl

/-- So does a run whose exemptions cannot be read. -/
theorem perform_of_not_exempt {why : Failure}
    (hchange : Change.ofSource (r.source host) = .error why) :
    perform host disk directory task {} = ⟨.error (.failed why), {},
      (Git.Repository.open host directory task.range ()).log.map .commanded⟩ := by
  have hfirst := outcome_embed_open hopen
  have hsecond (s : SessionState) :
      ((ofExcept (Change.ofSource (r.source host)) : Session Change) s).outcome =
        .error (.failed why) := by
    rw [ofExcept_apply, hchange]
    rfl
  rw [perform, Run.bind_of_ok hfirst, Run.bind_of_error (hsecond _), embed_apply, ofExcept_apply]
  simp

/-- Any other run says what it compares and then goes through the files. -/
theorem perform_of_open {change : Change} (hchange : Change.ofSource (r.source host) = .ok change) :
    perform host disk directory task {} =
      let yielded := runUpTo none (goThrough change disk task)
      ⟨yielded.outcome, yielded.state,
        (Git.Repository.open host directory task.range ()).log.map .commanded ++
          ((if task.verbose then [.progress (comparison task.range)] else []) ++ yielded.log)⟩ := by
  have hfirst := outcome_embed_open hopen
  have hsecond (s : SessionState) :
      ((ofExcept (Change.ofSource (r.source host)) : Session Change) s).outcome =
        .ok change := by
    rw [ofExcept_apply, hchange]
    rfl
  have hprogress (s : SessionState) : progress task.verbose (comparison task.range) s =
      ⟨.ok (), s, if task.verbose then [.progress (comparison task.range)] else []⟩ := by
    cases task.verbose <;> rfl
  have hthird (s : SessionState) :
      (progress task.verbose (comparison task.range) s).outcome = .ok () := by
    rw [hprogress]
  rw [perform, Run.bind_of_ok hfirst, Run.bind_of_ok (hsecond _), Run.bind_of_ok (hthird _),
    hprogress, embed_apply, ofExcept_apply]
  rfl

end Opened

/-- A run comes to its end or fails. -/
theorem perform_ends (host : Git.Host) (directory : Text) (task : Task) :
    (perform host disk directory task {}).outcome = .ok () ∨
      ∃ why, (perform host disk directory task {}).outcome = .error (.failed why) := by
  cases hopen : (Git.Repository.open host directory task.range ()).outcome with
  | error why =>
    rw [perform_of_not_open disk hopen]
    exact .inr ⟨why, rfl⟩
  | ok r =>
    cases hchange : Change.ofSource (r.source host) with
    | error why =>
      rw [perform_of_not_exempt disk hopen hchange]
      exact .inr ⟨why, rfl⟩
    | ok change =>
      rw [perform_of_open disk hopen hchange]
      have hends := (narrates_goThrough change disk task).stops.goesOn {}
      show (goThrough change disk task {}).outcome = .ok () ∨
        ∃ why, (goThrough change disk task {}).outcome = .error (.failed why)
      match hout : (goThrough change disk task {}).outcome with
      | .ok () => exact .inl rfl
      | .error (.failed why) => exact .inr ⟨why, rfl⟩
      | .error .enough => exact absurd hout hends

theorem hasViolation_iff (log : List Event) : hasViolation log = true ↔ reported log ≠ [] := by
  induction log with
  | nil => simp [hasViolation, reported]
  | cons event log ih =>
    have hcons : hasViolation (event :: log) = true ↔
        hasViolation [event] = true ∨ hasViolation log = true := by
      simp [hasViolation]
    rw [hcons, ih]
    cases event with
    | reported v => simp [hasViolation, reported]
    | asked question => simp [hasViolation, reported]
    | commanded command => simp [hasViolation, reported]
    | progress line => simp [hasViolation, reported]

end Check

/-! ## The exit code -/

namespace Cli

/-- A text made of lines: the messages of violations, in this order, and between them lines about
the progress, in this order. -/
def Shows (violations : List Violation) (remarks : List String) (text : String) : Prop :=
  ∃ lines : List (Violation ⊕ String),
    lines.filterMap Sum.getLeft? = violations ∧ lines.filterMap Sum.getRight? = remarks ∧
      text = String.join (lines.map fun line => line.elim Violation.message id ++ "\n")

/-- Where there are no lines about the progress, the messages are all there is. -/
theorem Shows.eq_join {violations : List Violation} {text : String} (h : Shows violations [] text) :
    text = String.join (violations.map fun v => v.message ++ "\n") := by
  obtain ⟨lines, rfl, hremarks, rfl⟩ := h
  congr 1
  induction lines with
  | nil => rfl
  | cons line lines ih =>
    cases line with
    | inl v => exact congrArg (_ :: ·) (ih hremarks)
    | inr remark => cases hremarks

/-- What the events of a log write shows its violations and the lines about the progress. -/
theorem shows_log (log : List Event) :
    Shows (reported log) (remarks log) (String.join (log.map errorText)) := by
  induction log with
  | nil => exact ⟨[], rfl, rfl, rfl⟩
  | cons event log ih =>
    obtain ⟨lines, hviolations, hremarks, htext⟩ := ih
    rw [List.map_cons, String.join_cons, htext]
    cases event with
    | asked question => exact ⟨lines, hviolations, hremarks, String.empty_append⟩
    | commanded command => exact ⟨lines, hviolations, hremarks, String.empty_append⟩
    | reported v =>
      refine ⟨.inl v :: lines, congrArg (v :: ·) hviolations, hremarks, ?_⟩
      rw [List.map_cons, String.join_cons]
      rfl
    | progress line =>
      refine ⟨.inr line :: lines, hviolations, congrArg (line :: ·) hremarks, ?_⟩
      rw [List.map_cons, String.join_cons]
      rfl

variable (host : Git.Host) (disk : FileTree) (directory : Text) (trace : Failure → String)

/-- What a failure adds at the end of the error stream. -/
def lastWords : Except Stop Unit → String
  | .error (.failed why) => why.headline ++ trace why ++ "\n"
  | _ => ""

section RunWith

variable {o : Options}

theorem runWith_of_failed {why : Failure}
    (h : (Check.perform host disk directory o.task {}).outcome = .error (.failed why)) :
    runWith host disk directory trace o =
      ⟨2, "", String.join ((Check.perform host disk directory o.task {}).log.map errorText) ++
          why.headline ++ trace why ++ "\n",
        (Check.perform host disk directory o.task {}).log⟩ := by
  unfold runWith
  simp only [h]

theorem runWith_of_ended (h : (Check.perform host disk directory o.task {}).outcome = .ok ()) :
    runWith host disk directory trace o =
      ⟨o.exitCode (Check.perform host disk directory o.task {}).log, "",
        String.join ((Check.perform host disk directory o.task {}).log.map errorText),
        (Check.perform host disk directory o.task {}).log⟩ := by
  unfold runWith
  simp only [h]

theorem exitCode_eq_one_iff (log : List Event) :
    o.exitCode log = 1 ↔ o.warn = false ∧ reported log ≠ [] := by
  rw [← Check.hasViolation_iff]
  cases hwarn : o.warn <;> cases hfound : Check.hasViolation log <;>
    simp [Options.exitCode, Check.exitCode, hwarn, hfound]

theorem exitCode_le_one (log : List Event) : o.exitCode log ≤ 1 := by
  cases hwarn : o.warn <;> cases hfound : Check.hasViolation log <;>
    simp [Options.exitCode, Check.exitCode, hwarn, hfound]

theorem runWith_exit_eq_two_iff : (runWith host disk directory trace o).exit = 2 ↔
    ∃ why, (Check.perform host disk directory o.task {}).outcome = .error (.failed why) := by
  rcases Check.perform_ends disk host directory o.task with hended | ⟨why, hfailed⟩
  · rw [runWith_of_ended host disk directory trace hended, hended]
    have hle := exitCode_le_one (o := o) (Check.perform host disk directory o.task {}).log
    simp only [reduceCtorEq, exists_false, iff_false]
    omega
  · rw [runWith_of_failed host disk directory trace hfailed, hfailed]
    simp

theorem runWith_exit_eq_one_iff : (runWith host disk directory trace o).exit = 1 ↔
    o.warn = false ∧ (Check.perform host disk directory o.task {}).outcome = .ok () ∧
      reported (Check.perform host disk directory o.task {}).log ≠ [] := by
  rcases Check.perform_ends disk host directory o.task with hended | ⟨why, hfailed⟩
  · rw [runWith_of_ended host disk directory trace hended, hended]
    simp [exitCode_eq_one_iff]
  · rw [runWith_of_failed host disk directory trace hfailed, hfailed]
    simp

theorem runWith_exit_le_two : (runWith host disk directory trace o).exit ≤ 2 := by
  rcases Check.perform_ends disk host directory o.task with hended | ⟨why, hfailed⟩
  · rw [runWith_of_ended host disk directory trace hended]
    exact Nat.le_succ_of_le (exitCode_le_one _)
  · simp [runWith_of_failed host disk directory trace hfailed]

/-- With a warning instead of a verdict the same is written, and only the verdict is taken back. -/
theorem runWith_warn : runWith host disk directory trace (o.set .warn) =
    { runWith host disk directory trace o with
      exit := if (runWith host disk directory trace o).exit = 1 then 0
        else (runWith host disk directory trace o).exit } := by
  have htask : (o.set .warn).task = o.task := rfl
  rcases Check.perform_ends disk host directory o.task with hended | ⟨why, hfailed⟩
  · have hcode (log : List Event) : (o.set .warn).exitCode log = 0 := rfl
    rw [runWith_of_ended host disk directory trace hended,
      runWith_of_ended host disk directory trace (htask ▸ hended)]
    have hle := exitCode_le_one (o := o) (Check.perform host disk directory o.task {}).log
    simp only [hcode, htask]
    congr 1
    split <;> omega
  · rw [runWith_of_failed host disk directory trace hfailed,
      runWith_of_failed host disk directory trace (htask ▸ hfailed)]
    rfl

/-- The error stream shows the run, and then the failure if there is one. -/
theorem runWith_stderr :
    let performed := Check.perform host disk directory o.task {}
    ∃ text, Shows (reported performed.log) (remarks performed.log) text ∧
      (runWith host disk directory trace o).stderr = text ++ lastWords trace performed.outcome := by
  intro performed
  refine ⟨_, shows_log performed.log, ?_⟩
  rcases Check.perform_ends disk host directory o.task with hended | ⟨why, hfailed⟩
  · rw [runWith_of_ended host disk directory trace hended, hended]
    simp [lastWords, performed]
  · rw [runWith_of_failed host disk directory trace hfailed, hfailed]
    simp [lastWords, performed, String.append_assoc]

theorem runWith_log :
    (runWith host disk directory trace o).log =
      (Check.perform host disk directory o.task {}).log := by
  rcases Check.perform_ends disk host directory o.task with hended | ⟨why, hfailed⟩
  · rw [runWith_of_ended host disk directory trace hended]
  · rw [runWith_of_failed host disk directory trace hfailed]

section Opened

variable {r : Git.Repository}
  (hopen : (Git.Repository.open host directory o.task.range ()).outcome = .ok r)

include hopen

/-- Where the exemptions cannot be read, that is all there is to say. -/
theorem runWith_of_not_exempt {why : Failure}
    (hchange : Change.ofSource (r.source host) = .error why) :
    reported (runWith host disk directory trace o).log = [] ∧
      (runWith host disk directory trace o).stderr = why.headline ++ trace why ++ "\n" := by
  obtain ⟨text, hshows, hstderr⟩ := runWith_stderr host disk directory trace (o := o)
  rw [Check.perform_of_not_exempt disk hopen hchange] at hshows hstderr
  rw [reported_inquiries (isInquiry_commanded _),
    remarks_inquiries (isInquiry_commanded _)] at hshows
  rw [runWith_log, hstderr, Check.perform_of_not_exempt disk hopen hchange, hshows.eq_join]
  exact ⟨reported_inquiries (isInquiry_commanded _), String.empty_append⟩

/-- Otherwise what the check or the scan yields is shown, in order, up to its end or its failure. -/
theorem runWith_of_open {change : Change} (hchange : Change.ofSource (r.source host) = .ok change) :
    let yielded := Session.runUpTo none (Check.goThrough change disk o.task)
    let said := if o.verbose then Check.comparison o.task.range :: remarks yielded.log else []
    reported (runWith host disk directory trace o).log = reported yielded.log ∧
      ∃ text, Shows (reported yielded.log) said text ∧
        (runWith host disk directory trace o).stderr = text ++ lastWords trace yielded.outcome := by
  intro yielded said
  obtain ⟨text, hshows, hstderr⟩ := runWith_stderr host disk directory trace (o := o)
  have hverbose : o.task.verbose = o.verbose := rfl
  have hreported : reported (Check.perform host disk directory o.task {}).log =
      reported yielded.log := by
    rw [Check.perform_of_open disk hopen hchange]
    simp only [reported_append, reported_inquiries (isInquiry_commanded _)]
    cases o.task.verbose <;> rfl
  have hsaid : remarks (Check.perform host disk directory o.task {}).log = said := by
    rw [Check.perform_of_open disk hopen hchange]
    simp only [remarks_append, remarks_inquiries (isInquiry_commanded _), said, hverbose]
    cases hv : o.verbose with
    | true => rfl
    | false =>
      -- nothing is said on the way either
      have htold := Check.narrates_goThrough change disk o.task
      rw [hverbose, hv] at htold
      exact htold.remarks_eq_nil {}
  rw [hreported, hsaid] at hshows
  rw [Check.perform_of_open disk hopen hchange] at hstderr
  rw [runWith_log]
  exact ⟨hreported, text, hshows, hstderr⟩

end Opened

end RunWith

/-! ## What the program leaves behind -/

/-- The ways in which the arguments ask for a warning instead of a verdict. -/
def warnFlags : List Text := ["--warn".toList, "-w".toList]

theorem parse_cons_warn {flag : Text} (hflag : flag ∈ warnFlags) (env : Environment)
    (arguments : List Text) :
    parse env (flag :: arguments) = (parse env arguments).map (·.set .warn) := by
  simp only [warnFlags, List.mem_cons, List.not_mem_nil, or_false] at hflag
  rcases hflag with rfl | rfl
  · exact parse_cons_switch (by decide) (by decide) env arguments
  · exact parse_cons_switch (by decide) (by decide) env arguments

section Run

variable {env : Environment} {arguments : List Text} {o : Options}

theorem run_of_error {e : UsageError} (h : parse env arguments = .error e) :
    run host disk directory trace env arguments =
      { exit := 2, stdout := usage ++ "\n", stderr := e.message ++ "\n" } := by
  unfold run
  rw [h]

theorem run_of_help (h : parse env arguments = .ok o) (hhelp : o.help = true) :
    run host disk directory trace env arguments =
      { exit := 0, stdout := usage ++ "\n", stderr := "" } := by
  simp [run, h, hhelp]

theorem run_of_ok (h : parse env arguments = .ok o) (hhelp : o.help = false) :
    run host disk directory trace env arguments = runWith host disk directory trace o := by
  simp [run, h, hhelp]

theorem run_exit_eq_two_iff : (run host disk directory trace env arguments).exit = 2 ↔
    (∃ e, parse env arguments = .error e) ∨ ∃ o why, parse env arguments = .ok o ∧ o.help = false ∧
      (Check.perform host disk directory o.task {}).outcome = .error (.failed why) := by
  cases hparse : parse env arguments with
  | error e => simp [run_of_error host disk directory trace hparse]
  | ok o =>
    cases hhelp : o.help with
    | true => simp [run_of_help host disk directory trace hparse hhelp, hhelp]
    | false =>
      simp [run_of_ok host disk directory trace hparse hhelp, hhelp, runWith_exit_eq_two_iff]

theorem run_exit_eq_one_iff : (run host disk directory trace env arguments).exit = 1 ↔
    ∃ o, parse env arguments = .ok o ∧ o.help = false ∧ o.warn = false ∧
      (Check.perform host disk directory o.task {}).outcome = .ok () ∧
        reported (Check.perform host disk directory o.task {}).log ≠ [] := by
  cases hparse : parse env arguments with
  | error e => simp [run_of_error host disk directory trace hparse]
  | ok o =>
    cases hhelp : o.help with
    | true => simp [run_of_help host disk directory trace hparse hhelp, hhelp]
    | false =>
      simp [run_of_ok host disk directory trace hparse hhelp, hhelp, runWith_exit_eq_one_iff]

theorem run_exit_le_two : (run host disk directory trace env arguments).exit ≤ 2 := by
  cases hparse : parse env arguments with
  | error e => simp [run_of_error host disk directory trace hparse]
  | ok o =>
    cases hhelp : o.help with
    | true => simp [run_of_help host disk directory trace hparse hhelp]
    | false =>
      rw [run_of_ok host disk directory trace hparse hhelp]
      exact runWith_exit_le_two host disk directory trace

/-- To warn only takes back a 1 and nothing else. -/
theorem run_warn {arguments' : List Text}
    (h : parse env arguments' = (parse env arguments).map (·.set .warn)) :
    run host disk directory trace env arguments' =
      { run host disk directory trace env arguments with
        exit := if (run host disk directory trace env arguments).exit = 1 then 0
          else (run host disk directory trace env arguments).exit } := by
  cases hparse : parse env arguments with
  | error e =>
    rw [hparse] at h
    rw [run_of_error host disk directory trace hparse, run_of_error host disk directory trace h]
    rfl
  | ok o =>
    rw [hparse] at h
    have hsame : (o.set .warn).help = o.help := rfl
    cases hhelp : o.help with
    | true =>
      rw [run_of_help host disk directory trace hparse hhelp,
        run_of_help host disk directory trace h (hsame.trans hhelp)]
      rfl
    | false =>
      rw [run_of_ok host disk directory trace hparse hhelp,
        run_of_ok host disk directory trace h (hsame.trans hhelp)]
      exact runWith_warn host disk directory trace

end Run

/-- The exit code tells how the program went.  It is 2 exactly if the arguments are in error or the
run that they ask for fails, and 1 exactly if the run comes to its end, reports a violation and is
not to warn only; otherwise it is 0.  Once the repository is open, the error stream holds the
messages of the violations that the check or the scan yields, in order, up to its end or its
failure; there are other lines between them only if the run is to be verbose.  To warn only takes
back a 1 and nothing else. -/
theorem run_exit (host : Git.Host) (disk : FileTree) (directory : Text) (trace : Failure → String)
    (env : Environment) (arguments : List Text) :
    let outcome := run host disk directory trace env arguments
    let performed := fun o : Options => Check.perform host disk directory o.task {}
    (outcome.exit = 2 ↔ (∃ e, parse env arguments = .error e) ∨
      ∃ o why, parse env arguments = .ok o ∧ o.help = false ∧
        (performed o).outcome = .error (.failed why)) ∧
    (outcome.exit = 1 ↔ ∃ o, parse env arguments = .ok o ∧ o.help = false ∧ o.warn = false ∧
      (performed o).outcome = .ok () ∧ reported (performed o).log ≠ []) ∧
    (outcome.exit ≠ 2 → outcome.exit ≠ 1 → outcome.exit = 0) ∧
    (∀ o r, parse env arguments = .ok o → o.help = false →
      (Git.Repository.open host directory o.task.range ()).outcome = .ok r →
      match Change.ofSource (r.source host) with
      | .error why =>
        reported outcome.log = [] ∧ outcome.stderr = why.headline ++ trace why ++ "\n"
      | .ok change =>
        let yielded := Session.runUpTo none (Check.goThrough change disk o.task)
        let said := if o.verbose then Check.comparison o.task.range :: remarks yielded.log else []
        reported outcome.log = reported yielded.log ∧
          (∃ text, Shows (reported yielded.log) said text ∧
            outcome.stderr = text ++ lastWords trace yielded.outcome) ∧
          (o.verbose = false → outcome.stderr =
            String.join ((reported yielded.log).map fun v => v.message ++ "\n") ++
              lastWords trace yielded.outcome)) ∧
    (∀ flag ∈ warnFlags, parse env (flag :: arguments) = (parse env arguments).map (·.set .warn)) ∧
    ∀ arguments', parse env arguments' = (parse env arguments).map (·.set .warn) →
      run host disk directory trace env arguments' =
        { outcome with exit := if outcome.exit = 1 then 0 else outcome.exit } := by
  intro outcome performed
  refine ⟨run_exit_eq_two_iff host disk directory trace,
    run_exit_eq_one_iff host disk directory trace, ?_, ?_,
    fun flag hflag => parse_cons_warn hflag env arguments,
    fun arguments' => run_warn host disk directory trace⟩
  · have hle : outcome.exit ≤ 2 := run_exit_le_two host disk directory trace
    omega
  · intro o r hparse hhelp hopen
    have hrun : outcome = runWith host disk directory trace o :=
      run_of_ok host disk directory trace hparse hhelp
    rw [hrun]
    cases hchange : Change.ofSource (r.source host) with
    | error why => exact runWith_of_not_exempt host disk directory trace hopen hchange
    | ok change =>
      obtain ⟨hreported, text, hshows, hstderr⟩ :=
        runWith_of_open host disk directory trace hopen hchange
      refine ⟨hreported, ⟨text, hshows, hstderr⟩, fun hquiet => ?_⟩
      rw [hquiet, if_neg Bool.false_ne_true] at hshows
      rw [hstderr, hshows.eq_join]

/-- A repository in whose working copy the first sibling is new. -/
def siblingHost : Git.Host :=
  let rule (word answer : String) : Git.Rule :=
    ⟨.mentions [word.toList], .ended (some 0) answer.toList [] none⟩
  Git.script
    [rule "--is-bare-repository" "false\n", rule "--show-toplevel" "/repo\n",
      rule "HEAD^\x7btree\x7d" "t0\n", rule "--name-status" "A\x00a\x00",
      rule "--cached" "x\x00", rule "ls-files" ""]

/-- The repository of the siblings. -/
def siblingRepository : Git.Repository where
  directory := "/repo".toList
  root := some "/repo".toList
  oldTree := "t0".toList
  newTree := none
  exemptPatterns := []

/-- The sibling has an obligation that is not met, which is told with 1, or with 0 to warn only. -/
theorem run_exit_sibling :
    let outcome := fun arguments =>
      run siblingHost Check.siblingDisk "/repo".toList (fun _ => "") {} arguments
    let yielded := Session.runUpTo none
      (Check.goThrough ⟨siblingRepository.source siblingHost, []⟩ Check.siblingDisk {})
    let violation := Violation.untouched ['x'] ⟨['a'], 2⟩
    (outcome []).exit = 1 ∧ reported yielded.log = [violation] ∧
      (outcome []).stderr = violation.message ++ "\n" ∧
      (outcome ["-w".toList]).exit = 0 ∧ (outcome ["-w".toList]).stderr = (outcome []).stderr := by
  intro outcome yielded violation
  have hexit : (outcome []).exit = 1 := by decide +kernel
  have hended : yielded.outcome = .ok () := by decide +kernel
  have hyielded : reported yielded.log = [violation] := by decide +kernel
  obtain ⟨-, -, -, hprinted, hflag, hwarn⟩ :=
    run_exit siblingHost Check.siblingDisk "/repo".toList (fun _ => "") {} []
  have hopened : (outcome []).stderr =
      String.join ((reported yielded.log).map fun v => v.message ++ "\n") ++
        lastWords (fun _ => "") yielded.outcome :=
    (hprinted {} siblingRepository rfl rfl (by decide +kernel)).2.2 rfl
  have hwarned : outcome ["-w".toList] =
      { outcome [] with exit := if (outcome []).exit = 1 then 0 else (outcome []).exit } :=
    hwarn _ (hflag "-w".toList (List.mem_cons_of_mem _ List.mem_cons_self))
  refine ⟨hexit, hyielded, ?_, ?_, ?_⟩
  · rw [hopened, hended, hyielded, List.map_singleton, String.join_cons]
    simp [lastWords]
  · rw [hwarned]
    exact if_pos hexit
  · rw [hwarned]

end Cli

end Lockstep
