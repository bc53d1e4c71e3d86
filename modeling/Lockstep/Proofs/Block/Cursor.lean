import Mathlib.Data.List.TakeDrop
import Lockstep.Block.Cursor
import Lockstep.Proofs.Scan

/-!
# Findings in several goes

A cursor hands out the findings of a text in as many goes as somebody likes: one at a
time, all that are left, or some of them in a loop that is left early.  This file shows
that none is handed out twice, passed over or made up, whatever the steps are
(`Cursor.turns_start`).

* `Cursor.Turn`: what can be seen of a step, which is the step and what it handed out.
* `Cursor.left_step`: a step takes what it hands out from the front of what is left.
  Only a loop that is left early gives up the rest.
* `Cursor.closed_of_step`: behind errors, and behind a step that came to the end, the
  cursor is closed.
* `Cursor.run_loop_drain_iff`: a loop that is left early loses the findings that it has
  not seen, and single steps do not.
-/

namespace Lockstep

namespace Cursor

/-- The findings that are left. -/
def left (c : Cursor) : List Finding := c.scan.findings

theorem left_closed : closed.left = [] := Scan.findings_finished

/-! ## Steps and what they hand out -/

/-- A step, and what it handed out. -/
abbrev Turn := Step × List Finding

/-- How many findings a step asks for; no number means all of them. -/
def Step.asked : Step → Option Nat
  | .next => some 1
  | .drain => none
  | .loop n => some n

/-- A turn that came to the end: all findings were asked for, or more than there were. -/
def CameToEnd (turn : Turn) : Prop := ∀ n, turn.1.asked = some n → turn.2.length < n

/-- A loop that was left when it had seen what it was to see. -/
def LeftEarly (turn : Turn) : Prop := ∃ n, turn.1 = .loop n ∧ turn.2.length = n

/-- The turns that steps come to, one after the other. -/
def turns (c : Cursor) (steps : List Step) : List Turn := steps.zip (c.run steps)

theorem turns_cons (c : Cursor) (s : Step) (steps : List Step) :
    c.turns (s :: steps) = (s, (c.step s).1) :: (c.step s).2.turns steps := rfl

theorem map_turns (c : Cursor) (steps : List Step) : (c.turns steps).map (·.1) = steps := by
  induction steps generalizing c with
  | nil => rfl
  | cons s steps ih => rw [turns_cons, List.map_cons, ih]

/-! ## One step -/

theorem step_next (c : Cursor) :
    (c.step .next).1 = c.left.take 1 ∧ (c.step .next).2.left = c.left.drop 1 := by
  rw [left, Scan.findings_eq, step]
  cases c.scan.next? with
  | none => exact ⟨rfl, left_closed⟩
  | some found => exact ⟨rfl, rfl⟩

theorem step_loop (c : Cursor) (n : Nat) : c.step (.loop n) = (c.left.take n, closed) := by
  rw [step, Scan.take_eq_take_findings, left]

/-- A step takes what it hands out from the front of what is left, and leaves the rest behind unless
it is a loop that is left early. -/
theorem left_step (c : Cursor) (s : Step) :
    (c.step s).1 ++ (c.step s).2.left <+: c.left ∧
      (¬ LeftEarly (s, (c.step s).1) → (c.step s).1 ++ (c.step s).2.left = c.left) := by
  cases s with
  | next =>
    obtain ⟨hhanded, hleft⟩ := c.step_next
    rw [hhanded, hleft, List.take_append_drop]
    exact ⟨List.prefix_rfl, fun _ => rfl⟩
  | drain =>
    have hall : (c.step .drain).1 ++ (c.step .drain).2.left = c.left := List.append_nil _
    rw [hall]
    exact ⟨List.prefix_rfl, fun _ => rfl⟩
  | loop n =>
    rw [step_loop, left_closed, List.append_nil]
    refine ⟨List.take_prefix n c.left, fun hends => ?_⟩
    -- fewer than `n` were there, so all of them were seen
    have hshort : (c.left.take n).length ≠ n := fun hlength => hends ⟨n, rfl, hlength⟩
    rw [List.length_take] at hshort
    exact List.take_of_length_le (by omega)

theorem length_step_le (c : Cursor) (s : Step) {n : Nat} (hn : s.asked = some n) :
    (c.step s).1.length ≤ n := by
  cases s with
  | next =>
    cases hn
    rw [c.step_next.1]
    exact List.length_take_le _ _
  | drain => cases hn
  | loop m =>
    cases hn
    rw [step_loop]
    exact List.length_take_le _ _

/-- Errors close the cursor, and so does coming to the end. -/
theorem closed_of_step (c : Cursor) (s : Step)
    (h : CameToEnd (s, (c.step s).1) ∨ ∃ errors, .broken errors ∈ (c.step s).1) :
    (c.step s).2 = closed := by
  cases s with
  | drain => rfl
  | loop n => rfl
  | next =>
    rw [step] at h ⊢
    cases hnext : c.scan.next? with
    | none => rfl
    | some found =>
      obtain ⟨f, s⟩ := found
      rw [hnext] at h
      rcases h with hend | ⟨errors, herrors⟩
      · exact absurd (hend 1 rfl) (Nat.lt_irrefl 1)
      · obtain rfl := List.mem_singleton.1 herrors
        rcases Scan.advance_cases hnext with ⟨-, -, -, rfl⟩ | ⟨⟨b, hb⟩, -⟩
        · rfl
        · cases hb

/-- A step that came to the end handed out all that was left. -/
theorem step_eq_left (c : Cursor) (s : Step) (h : CameToEnd (s, (c.step s).1)) :
    (c.step s).1 = c.left := by
  have hends : ¬ LeftEarly (s, (c.step s).1) := by
    rintro ⟨n, rfl, hlength⟩
    exact Nat.ne_of_lt (h n rfl) hlength
  have hleft := (c.left_step s).2 hends
  rwa [closed_of_step c s (.inl h), left_closed, List.append_nil] at hleft

/-! ## Step after step -/

/-- Nothing comes from a closed cursor. -/
theorem turns_closed (steps : List Step) : ∀ turn ∈ closed.turns steps, turn.2 = [] := by
  induction steps with
  | nil => exact fun turn hturn => absurd hturn List.not_mem_nil
  | cons s steps ih =>
    have hstep : closed.step s = ([], closed) := by
      cases s with
      | next => rfl
      | drain => rfl
      | loop n => rw [step_loop, left_closed, List.take_nil]
    rw [turns_cons, hstep, List.forall_mem_cons]
    exact ⟨rfl, ih⟩

/-- What is handed out comes from the front of what is left, in order. -/
theorem handed_prefix (c : Cursor) (steps : List Step) :
    (c.turns steps).flatMap (·.2) <+: c.left := by
  induction steps generalizing c with
  | nil => exact List.nil_prefix
  | cons s steps ih =>
    rw [turns_cons, List.flatMap_cons]
    exact ((List.prefix_append_right_inj _).2 (ih _)).trans (c.left_step s).1

/-- In front of every turn there is a cursor that it was taken from.  As long as no loop was left
early, what was handed out before and what is left there are all there was. -/
theorem exists_of_turns {c : Cursor} {steps : List Step} {before behind : List Turn} {turn : Turn}
    (h : c.turns steps = before ++ turn :: behind) :
    ∃ (d : Cursor) (later : List Step), (d.step turn.1).1 = turn.2 ∧
      (d.step turn.1).2.turns later = behind ∧
      ((∀ t ∈ before, ¬ LeftEarly t) → before.flatMap (·.2) ++ d.left = c.left) := by
  induction before generalizing c steps with
  | nil =>
    cases steps with
    | nil => cases h
    | cons s steps =>
      rw [turns_cons] at h
      obtain ⟨rfl, rfl⟩ := List.cons.inj h
      exact ⟨c, steps, rfl, rfl, fun _ => rfl⟩
  | cons first before ih =>
    cases steps with
    | nil => cases h
    | cons s steps =>
      rw [turns_cons] at h
      obtain ⟨rfl, hrest⟩ := List.cons.inj h
      obtain ⟨d, later, hturn, hbehind, hleft⟩ := ih hrest
      refine ⟨d, later, hturn, hbehind, fun hends => ?_⟩
      obtain ⟨hfirst, hends⟩ := List.forall_mem_cons.1 hends
      rw [List.flatMap_cons, List.append_assoc, hleft hends]
      exact (c.left_step s).2 hfirst

/-- Whatever steps are taken through the findings of a text, each hands out no more than was asked
for, and all of them together hand out a beginning of the findings, in order.  If one of them came
to the end, as one that takes all that are left does, and no loop before it was left early, they
hand out everything.  Behind errors, and behind a step that came to the end, no step hands out
anything. -/
theorem turns_start (text : Text) (steps : List Step) :
    let turns := (start text).turns steps
    turns.map (·.1) = steps ∧
      (∀ turn ∈ turns, ∀ n, turn.1.asked = some n → turn.2.length ≤ n) ∧
      turns.flatMap (·.2) <+: findings text ∧
      (∀ before turn behind, turns = before ++ turn :: behind → CameToEnd turn →
        (∀ earlier ∈ before, ¬ LeftEarly earlier) → turns.flatMap (·.2) = findings text) ∧
      ∀ before turn behind, turns = before ++ turn :: behind →
        (CameToEnd turn ∨ ∃ errors, .broken errors ∈ turn.2) → ∀ later ∈ behind, later.2 = [] := by
  intro turns
  refine ⟨map_turns _ steps, ?_, handed_prefix _ steps, ?_, ?_⟩
  · intro turn hturn n hn
    obtain ⟨before, behind, hsplit⟩ := List.append_of_mem hturn
    obtain ⟨d, later, hhanded, -, -⟩ := exists_of_turns hsplit
    rw [← hhanded]
    exact d.length_step_le turn.1 hn
  · intro before turn behind hsplit hturn hends
    obtain ⟨d, later, hhanded, hbehind, hleft⟩ := exists_of_turns hsplit
    have hend : CameToEnd (turn.1, (d.step turn.1).1) := by rwa [hhanded]
    have hrest : behind.flatMap (·.2) = [] := by
      rw [← hbehind, closed_of_step d turn.1 (.inl hend)]
      exact List.flatMap_eq_nil_iff.2 (turns_closed later)
    calc turns.flatMap (·.2)
        = before.flatMap (·.2) ++ (turn.2 ++ behind.flatMap (·.2)) := by
          rw [hsplit, List.flatMap_append, List.flatMap_cons]
      _ = before.flatMap (·.2) ++ d.left := by
          rw [hrest, List.append_nil, ← hhanded, step_eq_left d turn.1 hend]
      _ = findings text := hleft hends
  · intro before turn behind hsplit hturn
    obtain ⟨d, later, hhanded, hbehind, -⟩ := exists_of_turns hsplit
    rw [← hbehind, closed_of_step d turn.1 (by rw [hhanded]; exact hturn)]
    exact turns_closed later

/-- Two blocks in a row, and a third one that is not closed. -/
def threeOpenings : Text :=
  "# if-changed(a)\n# then-change()\n# if-changed(b)\n# then-change()\n# if-changed(c)\n".toList

/-- One finding, and then a loop that would take three more and sees the other two, of which the
last are errors: that is everything, and nothing comes behind it. -/
theorem turns_start_openings :
    let turns := (start threeOpenings).turns [.next, .loop 3, .drain, .next]
    turns.map (·.2.length) = [1, 2, 0, 0] ∧ turns.flatMap (·.2) = findings threeOpenings ∧
      ∀ later ∈ turns.drop 2, later.2 = [] := by
  intro turns
  set first : Finding := .block ⟨some ['a'], ⟨1, 2⟩, []⟩
  set second : Finding := .block ⟨some ['b'], ⟨3, 4⟩, []⟩
  have hturns : turns =
      [(.next, [first]), (.loop 3, [second, .broken [.noClosing 5]]), (.drain, []),
      (.next, [])] := by decide
  obtain ⟨-, -, -, hall, hnothing⟩ := turns_start threeOpenings [.next, .loop 3, .drain, .next]
  refine ⟨by rw [hturns]; rfl, ?_, ?_⟩
  · refine hall [(.next, [first])] (.loop 3, [second, .broken [.noClosing 5]])
      [(.drain, []), (.next, [])]
      hturns ?_ ?_
    · simp [CameToEnd, Step.asked]
    · simp [LeftEarly]
  · have hlater := hnothing [(.next, [first])] (.loop 3, [second, .broken [.noClosing 5]])
      [(.drain, []), (.next, [])] hturns (.inr ⟨[.noClosing 5], by simp⟩)
    rw [hturns]
    exact hlater

/-! ## Going on behind a loop -/

/-- Some findings one by one, and then all that are left, are everything. -/
theorem flatten_run_next (c : Cursor) (n : Nat) :
    (c.run (List.replicate n .next ++ [.drain])).flatten = c.left := by
  induction n generalizing c with
  | zero => exact List.append_nil _
  | succ n ih =>
    obtain ⟨hhanded, hleft⟩ := c.step_next
    show (c.step .next).1 ++
      ((c.step .next).2.run (List.replicate n .next ++ [.drain])).flatten = c.left
    rw [ih, hhanded, hleft, List.take_append_drop]

/-- Behind a loop that is left after `n` findings a second loop finds nothing.  So the two see all
findings exactly if the first one has seen them all.  Behind `n` single steps, a loop does see the
rest. -/
theorem run_loop_drain_iff (text : Text) (n : Nat) :
    let twoLoops := (start text).run [.loop n, .drain]
    twoLoops = [(findings text).take n, []] ∧
      (twoLoops.flatten = findings text ↔ (findings text).length ≤ n) ∧
      ((start text).run (List.replicate n .next ++ [.drain])).flatten = findings text := by
  intro twoLoops
  have hloops : twoLoops = [(findings text).take n, []] := by
    show [((start text).step (.loop n)).1, (((start text).step (.loop n)).2.step .drain).1] = _
    rw [step_loop]
    rfl
  have hflatten : twoLoops.flatten = (findings text).take n := by
    rw [hloops]
    simp
  refine ⟨hloops, ?_, flatten_run_next (start text) n⟩
  rw [hflatten]
  exact List.take_eq_self_iff _

/-- A file with two blocks. -/
def twoBlocks : Text :=
  "// if-changed(first)\n// then-change(x.md)\n// if-changed(second)\n// then-change(y.md)\n".toList

/-- The second block is lost to a loop that is left behind the first one. -/
theorem second_block_lost :
    let first : Finding := .block ⟨some "first".toList, ⟨1, 2⟩, [⟨"x.md".toList, none, 2⟩]⟩
    let second : Finding := .block ⟨some "second".toList, ⟨3, 4⟩, [⟨"y.md".toList, none, 4⟩]⟩
    findings twoBlocks = [first, second] ∧
      (start twoBlocks).run [.loop 1, .drain] = [[first], []] := by
  decide +kernel

end Cursor

end Lockstep
