import Mathlib.Tactic.Common
import Lockstep.Block.Scan

/-!
# Scanning, one finding after the other

`Scan.findings` bounds the number of findings by the number of lines.  This file
shows that the bound never cuts anything off (`Scan.findings_eq`), so that the
findings of a scan are its next finding, if there is one, and the findings behind
it.  It also shows that errors are never reported without saying which
(`findings_broken_ne_nil`).
-/

namespace Lockstep

/-! ## Reading a list moves on by whole lines -/

namespace Entries

theorem readLines_drop {marker : Nat} {e : Entries} {here : Nat} {lines : List Text}
    {obligations : List Obligation} {last : Nat} {rest : List Text}
    (h : readLines marker e here lines = .ok (obligations, last, rest)) :
    ∃ n ≤ lines.length, last = here + n ∧ rest = lines.drop n := by
  induction lines generalizing e here with
  | nil => cases h
  | cons line lines ih =>
    rw [readLines] at h
    split at h
    · obtain ⟨n, hn, hlast, hrest⟩ := ih h
      exact ⟨n + 1, Nat.succ_le_succ hn, by omega, hrest⟩
    · cases h
      exact ⟨1, Nat.succ_le_succ (Nat.zero_le _), rfl, rfl⟩
    · cases h

theorem read_drop {marker : Nat} {text : Text} {lines : List Text}
    {obligations : List Obligation} {last : Nat} {rest : List Text}
    (h : read marker text lines = .ok (obligations, last, rest)) :
    ∃ n ≤ lines.length, last = marker + n ∧ rest = lines.drop n := by
  unfold read at h
  split at h
  · split at h
    · exact readLines_drop h
    · cases h
      exact ⟨0, Nat.zero_le _, rfl, rfl⟩
    · cases h
  · cases h

end Entries

namespace Scan

/-! ## One step -/

/-- Closing a block either ends the scan with an error, or gives the block and goes on behind its
list. -/
theorem close_cases {marker : Nat} {rest : Text} {lines : List Text} {opened : List OpenBlock}
    {f : Finding} {s : Scan} (h : close marker rest lines opened = (f, s)) :
    (∃ errors, errors ≠ [] ∧ f = .broken errors ∧ s = finished) ∨
      ∃ obligations here behind b outer,
        Entries.read marker rest lines = .ok (obligations, here, behind) ∧
        opened = b :: outer ∧ f = .block ⟨b.name, ⟨b.line, marker⟩, obligations⟩ ∧
        s = ⟨here, behind, outer⟩ := by
  unfold close at h
  split at h
  · cases h; exact .inl ⟨_, by simp, rfl, rfl⟩
  · cases h; exact .inl ⟨_, by simp, rfl, rfl⟩
  · cases h; exact .inl ⟨_, by simp, rfl, rfl⟩
  · next obligations here behind b outer hread =>
    cases h
    exact .inr ⟨obligations, here, behind, b, outer, hread, rfl, rfl, rfl⟩

/-- What the next finding can be: errors that end the scan, or a block, with fewer lines left. -/
theorem advance_cases {here : Nat} {opened : List OpenBlock} {lines : List Text} {f : Finding}
    {s : Scan} (h : advance here opened lines = some (f, s)) :
    (∃ errors, errors ≠ [] ∧ f = .broken errors ∧ s = finished) ∨
      (∃ b, f = .block b) ∧ s.lines.length < lines.length := by
  induction lines generalizing here opened with
  | nil =>
    cases opened with
    | nil => cases h
    | cons b outer =>
      cases h
      exact .inl ⟨_, by simp, rfl, rfl⟩
  | cons line lines ih =>
    rw [advance] at h
    split at h
    next opening rest hopening =>
    split at h
    · cases h; exact .inl ⟨_, by simp, rfl, rfl⟩
    · dsimp only at h
      split at h
      · rw [Option.some_inj] at h
        rcases close_cases h with hbroken | ⟨obligations, last, behind, b, outer, hread, -, hf, hs⟩
        · exact .inl hbroken
        · obtain ⟨n, -, -, rfl⟩ := Entries.read_drop hread
          subst hs
          refine .inr ⟨⟨_, hf⟩, Nat.lt_succ_of_le ?_⟩
          rw [List.length_drop]
          exact Nat.sub_le _ _
      · rcases ih h with hbroken | ⟨hb, hlt⟩
        · exact .inl hbroken
        · exact .inr ⟨hb, Nat.lt_succ_of_lt hlt⟩

/-! ## All findings -/

/-- A bound above the number of lines does not show. -/
theorem take_succ_eq {n : Nat} {s : Scan} (h : s.lines.length < n) :
    (s.take n).1 = (s.take (n + 1)).1 := by
  induction n generalizing s with
  | zero => cases h
  | succ n ih =>
    rw [take, take]
    cases hnext : s.next? with
    | none => rfl
    | some found =>
      obtain ⟨f, s'⟩ := found
      show f :: (take n s').1 = f :: (take (n + 1) s').1
      congr 1
      rcases advance_cases hnext with ⟨errors, -, -, rfl⟩ | ⟨-, hlt⟩
      · -- behind errors there is nothing, whatever the bound
        cases n with
        | zero => rfl
        | succ n => exact ih (Nat.succ_pos n)
      · exact ih (by omega)

theorem take_eq_findings {n : Nat} {s : Scan} (h : s.lines.length < n) :
    (s.take n).1 = s.findings := by
  induction n with
  | zero => cases h
  | succ n ih =>
    rcases Nat.lt_or_eq_of_le (Nat.le_of_lt_succ h) with hlt | heq
    · rw [← take_succ_eq hlt, ih hlt]
    · rw [findings, heq]

/-- The findings of a scan are the next one and those behind it. -/
theorem findings_eq (s : Scan) : s.findings =
    match s.next? with
    | none => []
    | some (f, s') => f :: s'.findings := by
  rw [findings, take]
  cases hnext : s.next? with
  | none => rfl
  | some found =>
    obtain ⟨f, s'⟩ := found
    show f :: (take s.lines.length s').1 = f :: s'.findings
    congr 1
    rcases advance_cases hnext with ⟨errors, -, -, rfl⟩ | ⟨-, hlt⟩
    · cases hlen : s.lines.length with
      | zero => rfl
      | succ n => exact take_eq_findings (Nat.succ_pos n)
    · exact take_eq_findings hlt

theorem findings_finished : finished.findings = [] := rfl

/-- Going on for so many findings gives the first ones of all. -/
theorem take_eq_take_findings (n : Nat) (s : Scan) : (s.take n).1 = s.findings.take n := by
  induction n generalizing s with
  | zero => rw [take, List.take_zero]
  | succ n ih =>
    rw [take, findings_eq]
    cases hnext : s.next? with
    | none => rfl
    | some found => exact congrArg (found.1 :: ·) (ih found.2)

/-- Findings are blocks, and behind them at most one finding with errors. -/
theorem findings_shape (s : Scan) : ∃ (blocks : List Block) (last : Option (List BlockError)),
    s.findings = blocks.map .block ++ last.toList.map .broken := by
  -- every block takes a line at least
  induction hlines : s.lines.length using Nat.strongRecOn generalizing s with
  | ind n ih =>
    rw [findings_eq]
    cases hnext : s.next? with
    | none => exact ⟨[], none, rfl⟩
    | some found =>
      obtain ⟨f, s'⟩ := found
      dsimp only
      rcases advance_cases hnext with ⟨errors, -, rfl, rfl⟩ | ⟨⟨b, rfl⟩, hlt⟩
      · exact ⟨[], some errors, by rw [findings_finished]; rfl⟩
      · obtain ⟨blocks, last, heq⟩ := ih s'.lines.length (hlines ▸ hlt) s' rfl
        exact ⟨b :: blocks, last, by rw [heq]; rfl⟩

/-- Errors come with a message at least. -/
theorem take_broken_ne_nil {n : Nat} {s : Scan} {errors : List BlockError}
    (h : Finding.broken errors ∈ (s.take n).1) : errors ≠ [] := by
  induction n generalizing s with
  | zero => cases h
  | succ n ih =>
    rw [take] at h
    cases hnext : s.next? with
    | none => rw [hnext] at h; cases h
    | some found =>
      obtain ⟨f, s'⟩ := found
      rw [hnext] at h
      rcases List.mem_cons.1 h with rfl | h
      · rcases advance_cases hnext with ⟨errors', hne, ⟨⟩, -⟩ | ⟨⟨b, hb⟩, -⟩
        · exact hne
        · cases hb
      · exact ih h

end Scan

theorem findings_broken_ne_nil {text : Text} {errors : List BlockError}
    (h : Finding.broken errors ∈ findings text) : errors ≠ [] :=
  Scan.take_broken_ne_nil h

end Lockstep
