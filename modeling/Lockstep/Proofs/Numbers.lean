import Mathlib.Algebra.Group.Nat.Defs
import Mathlib.Tactic.Common
import Lockstep.Patch.LineNumber

/-!
# Line numbers as numbers

Up to 2^53 a line number holds the number it stands for, so that counting lines
is ordinary arithmetic there.  Beyond that numbers are rounded, which keeps their
order (`LineNumber.round_le_round`) and does not run away when counting goes on
from a rounded number (`LineNumber.round_succ_round_le`).
-/

namespace Lockstep

namespace LineNumber

theorem round_of_le {n : Nat} (h : n ≤ 2 ^ 53) : round n = n := by
  rcases Nat.lt_or_eq_of_le h with hlt | rfl
  · rw [round]
    exact if_pos hlt
  · decide

/-- Every number up to 2^53 is held exactly. -/
theorem ofNat_of_le {n : Nat} (h : n ≤ 2 ^ 53) : ofNat n = .finite n := by
  have hpow : ∀ k, 53 < k → n < Nat.pow 2 k := fun k hk =>
    Nat.lt_of_le_of_lt h (Nat.pow_lt_pow_right Nat.one_lt_two hk)
  have hbound : n < Nat.pow 2 1024 := hpow 1024 (by omega)
  simp only [ofNat, round_of_le h]
  exact if_pos hbound

theorem plus_finite {m n : Nat} (h : m + n ≤ 2 ^ 53) : (finite m).plus n = .finite (m + n) := by
  rw [plus, ofNat_of_le h]

theorem atMost_finite {m n : Nat} : (finite n).atMost m = true ↔ n ≤ m := by simp [atMost]

theorem atLeast_finite {m n : Nat} : (finite n).atLeast m = true ↔ m ≤ n := by simp [atLeast]

/-! ## Rounding keeps the order -/

section Rounding

variable {unit k m n : Nat}

/-- A number is rounded down by at most half a unit, or up; of two multiples that are as near, the
even one is taken. -/
theorem nearestMultiple_cases (unit n : Nat) :
    nearestMultiple unit n = n / unit * unit ∨
      nearestMultiple unit n = (n / unit + 1) * unit ∧
        (unit < 2 * (n % unit) ∨ unit = 2 * (n % unit) ∧ n / unit % 2 = 1) := by
  rw [nearestMultiple]
  split
  · exact .inl rfl
  · exact .inr ⟨rfl, by omega⟩

theorem nearestMultiple_of_dvd (hpos : 0 < unit) (hn : unit ∣ n) : nearestMultiple unit n = n := by
  rw [nearestMultiple, Nat.mod_eq_zero_of_dvd hn, if_pos (.inl hpos), Nat.div_mul_cancel hn]

/-- Multiples above a number stay above it. -/
theorem nearestMultiple_le (hk : unit ∣ k) (hle : n ≤ k) : nearestMultiple unit n ≤ k := by
  rcases nearestMultiple_cases unit n with hdown | ⟨hup, hrest⟩
  · rw [hdown]
    exact Nat.le_trans (Nat.div_mul_le_self n unit) hle
  · obtain ⟨q, rfl⟩ := hk
    rw [hup, Nat.mul_comm unit q]
    refine Nat.mul_le_mul_right unit (Nat.lt_of_mul_lt_mul_right (a := unit) ?_)
    have hdiv := Nat.div_add_mod n unit
    rw [Nat.mul_comm] at hdiv
    rw [Nat.mul_comm q unit]
    rcases Nat.eq_zero_or_pos unit with rfl | hpos
    · simp at hle hrest
      omega
    · omega

/-- Multiples below a number stay below it. -/
theorem le_nearestMultiple (hk : unit ∣ k) (hle : k ≤ n) : k ≤ nearestMultiple unit n := by
  have hdown : k ≤ n / unit * unit := by
    obtain ⟨q, rfl⟩ := hk
    rcases Nat.eq_zero_or_pos unit with rfl | hpos
    · simp
    · rw [Nat.mul_comm unit q]
      refine Nat.mul_le_mul_right unit ((Nat.le_div_iff_mul_le hpos).2 ?_)
      rwa [Nat.mul_comm]
  rcases nearestMultiple_cases unit n with h | ⟨h, -⟩
  · rwa [h]
  · rw [h]
    exact Nat.le_trans hdown (Nat.mul_le_mul_right unit (Nat.le_succ _))

theorem nearestMultiple_mono (hpos : 0 < unit) (h : m ≤ n) :
    nearestMultiple unit m ≤ nearestMultiple unit n := by
  rcases Nat.lt_or_eq_of_le (Nat.div_le_div_right (c := unit) h) with hlt | heq
  · -- a multiple lies between the two
    have hbetween : m ≤ n / unit * unit :=
      Nat.le_of_lt ((Nat.div_lt_iff_lt_mul hpos).1 hlt)
    exact Nat.le_trans (nearestMultiple_le (Nat.dvd_mul_left _ _) hbetween)
      (le_nearestMultiple (Nat.dvd_mul_left _ _) (Nat.div_mul_le_self n unit))
  · have hm := Nat.div_add_mod m unit
    have hn := Nat.div_add_mod n unit
    rw [heq] at hm
    have hrest : m % unit ≤ n % unit := by omega
    rw [nearestMultiple, nearestMultiple]
    rw [heq]
    by_cases hdown : 2 * (n % unit) < unit ∨ 2 * (n % unit) = unit ∧ n / unit % 2 = 0
    · have hdown' : 2 * (m % unit) < unit ∨ 2 * (m % unit) = unit ∧ n / unit % 2 = 0 := by omega
      exact Nat.le_of_eq (by rw [if_pos hdown, if_pos hdown'])
    · rw [if_neg hdown]
      split
      · exact Nat.mul_le_mul_right unit (Nat.le_succ _)
      · exact Nat.le_refl _

theorem spacing_pos (n : Nat) : 0 < spacing n := Nat.pow_pos Nat.two_pos

theorem spacing_eq_one (h : n.log2 < 53) : spacing n = 1 :=
  congrArg (Nat.pow 2) (show n.log2 - 52 = 0 by omega)

theorem two_dvd_spacing (h : 53 ≤ n.log2) : 2 ∣ spacing n :=
  Nat.dvd_of_pow_dvd (show 1 ≤ n.log2 - 52 by omega) (Nat.dvd_refl _)

/-- Below 2^53 the spacing is one, so that rounding is the same everywhere. -/
theorem round_eq (n : Nat) : round n = nearestMultiple (spacing n) n := by
  by_cases h : n < 2 ^ 53
  · have hlog : n.log2 < 53 := by
      rcases Nat.eq_zero_or_pos n with rfl | hpos
      · decide
      · exact (Nat.log2_lt (Nat.pos_iff_ne_zero.1 hpos)).2 h
    have hround : round n = n := round_of_le (Nat.le_of_lt h)
    rw [hround, spacing_eq_one hlog, nearestMultiple_of_dvd Nat.one_pos (Nat.one_dvd n)]
  · rw [round]
    exact if_neg h

theorem spacing_dvd_pow (h : n.log2 ≤ k) : spacing n ∣ 2 ^ k :=
  Nat.pow_dvd_pow 2 (by omega)

theorem pow_log2_le_round (h : n ≠ 0) : 2 ^ n.log2 ≤ round n := by
  rw [round_eq]
  exact le_nearestMultiple (spacing_dvd_pow (Nat.le_refl _)) (Nat.log2_self_le h)

theorem round_le_pow (n : Nat) : round n ≤ 2 ^ (n.log2 + 1) := by
  rw [round_eq]
  exact nearestMultiple_le (spacing_dvd_pow (Nat.le_succ _)) (Nat.le_of_lt Nat.lt_log2_self)

/-- What is rounded keeps its order. -/
theorem round_le_round (h : m ≤ n) : round m ≤ round n := by
  rcases Nat.eq_zero_or_pos m with rfl | hpos
  · exact Nat.zero_le _
  have hm : m ≠ 0 := Nat.pos_iff_ne_zero.1 hpos
  have hn : n ≠ 0 := by omega
  have hlog : m.log2 ≤ n.log2 := (Nat.le_log2 hn).2 (Nat.le_trans (Nat.log2_self_le hm) h)
  rcases Nat.lt_or_eq_of_le hlog with hlt | heq
  · calc round m ≤ 2 ^ (m.log2 + 1) := round_le_pow m
      _ ≤ 2 ^ n.log2 := Nat.pow_le_pow_right Nat.two_pos hlt
      _ ≤ round n := pow_log2_le_round hn
  · have hspacing : spacing m = spacing n := by rw [spacing, heq, spacing]
    rw [round_eq, round_eq, hspacing]
    exact nearestMultiple_mono (spacing_pos n) h

theorem spacing_dvd_round (n : Nat) : spacing n ∣ round n := by
  rw [round_eq]
  rcases nearestMultiple_cases (spacing n) n with h | ⟨h, -⟩ <;> rw [h] <;>
    exact Nat.dvd_mul_left _ _

theorem spacing_eq (hlow : 2 ^ n.log2 ≤ m) (hhigh : m < 2 ^ (n.log2 + 1)) :
    spacing m = spacing n := by
  have hm : m ≠ 0 := Nat.pos_iff_ne_zero.1 (Nat.lt_of_lt_of_le (Nat.pow_pos Nat.two_pos) hlow)
  rw [spacing, (Nat.log2_eq_iff hm).2 ⟨hlow, hhigh⟩, spacing]

/-- What has been rounded is held as it is. -/
theorem round_round (n : Nat) : round (round n) = round n := by
  rcases Nat.eq_zero_or_pos n with rfl | hpos
  · rfl
  have hlow := pow_log2_le_round (Nat.pos_iff_ne_zero.1 hpos)
  have hdvd : spacing (round n) ∣ round n := by
    rcases Nat.lt_or_eq_of_le (round_le_pow n) with hlt | heq
    · rw [spacing_eq hlow hlt]
      exact spacing_dvd_round n
    · rw [heq]
      exact spacing_dvd_pow (Nat.le_of_eq Nat.log2_two_pow)
  rw [round_eq, nearestMultiple_of_dvd (spacing_pos _) hdvd]

/-- The number behind a multiple is rounded back to it if the unit is large enough. -/
theorem nearestMultiple_succ (hm : unit ∣ m) (hunit : 2 < unit ∨ unit = 2 ∧ m / 2 % 2 = 0) :
    nearestMultiple unit (m + 1) = m := by
  have hone : 1 < unit := by omega
  obtain ⟨q, rfl⟩ := hm
  have hpos : 0 < unit := by omega
  have hrest : (unit * q + 1) % unit = 1 := by rw [Nat.mul_add_mod, Nat.mod_eq_of_lt hone]
  have hquot : (unit * q + 1) / unit = q := by
    rw [Nat.mul_add_div hpos, Nat.div_eq_of_lt hone, Nat.add_zero]
  have heven : unit = 2 → q % 2 = 0 := by
    rintro rfl
    omega
  rw [nearestMultiple, hrest, hquot, if_pos (by omega), Nat.mul_comm]

/-- Below the next power of two, the number behind a rounded one is rounded back to it if the
spacing is wider than two, or if it is two and the rounded one is an even multiple. -/
theorem round_succ_round_of_lt (hlarge : 53 ≤ n.log2) (heven : spacing n = 2 → round n / 2 % 2 = 0)
    (hlt : round n < 2 ^ (n.log2 + 1)) : round (round n + 1) = round n := by
  have hn : n ≠ 0 := by
    rintro rfl
    exact absurd hlarge (by decide)
  have hdvd := spacing_dvd_round n
  have htwo := two_dvd_spacing hlarge
  have hroom : round n + 1 < 2 ^ (n.log2 + 1) := by
    -- both sides of `hlt` are even, so that there is room for one number more
    have hround : 2 ∣ round n := Nat.dvd_trans htwo hdvd
    have hpow : 2 ^ (n.log2 + 1) = 2 * 2 ^ n.log2 := by rw [Nat.pow_succ, Nat.mul_comm]
    omega
  rw [round_eq (round n + 1), spacing_eq (Nat.le_succ_of_le (pow_log2_le_round hn)) hroom]
  refine nearestMultiple_succ hdvd ?_
  rcases Nat.lt_or_eq_of_le (Nat.le_of_dvd (spacing_pos n) htwo) with hwide | heq
  · exact .inl hwide
  · exact .inr ⟨heq.symm, heven heq.symm⟩

/-- The next power of two is the first number of a wider spacing, so that the number behind it is
rounded back. -/
theorem round_succ_round_of_eq (hlarge : 53 ≤ n.log2) (heq : round n = 2 ^ (n.log2 + 1)) :
    round (round n + 1) = round n := by
  have hlog : (round n + 1).log2 = n.log2 + 1 := by
    rw [heq, Nat.log2_eq_iff (Nat.succ_ne_zero _)]
    refine ⟨Nat.le_succ _, ?_⟩
    have hone : 1 < 2 ^ (n.log2 + 1) := Nat.one_lt_two_pow (Nat.succ_ne_zero _)
    rw [Nat.pow_succ 2 (n.log2 + 1)]
    omega
  rw [round_eq (round n + 1)]
  refine nearestMultiple_succ ?_ (.inl ?_)
  · rw [heq] at hlog ⊢
    exact spacing_dvd_pow (Nat.le_of_eq hlog)
  · rw [spacing, hlog]
    exact Nat.pow_lt_pow_right Nat.one_lt_two (show 1 < n.log2 + 1 - 52 by omega)

/-- Counting on from a rounded number does not lead behind the number itself counted on and rounded.
If it was rounded up, the next number is rounded back to it. -/
theorem round_succ_round_le (n : Nat) : round (round n + 1) ≤ round (n + 1) := by
  rcases nearestMultiple_cases (spacing n) n with hdown | ⟨hup, hrest⟩
  · refine round_le_round (Nat.succ_le_succ ?_)
    rw [round_eq, hdown]
    exact Nat.div_mul_le_self _ _
  · have hlarge : 53 ≤ n.log2 := by
      refine Nat.le_of_not_lt fun hlt => ?_
      rw [spacing_eq_one hlt, Nat.mod_one] at hrest
      omega
    have heven : spacing n = 2 → round n / 2 % 2 = 0 := by
      intro htwo
      rw [htwo] at hrest
      rw [round_eq, hup, htwo]
      omega
    have hback : round (round n + 1) = round n := by
      rcases Nat.lt_or_eq_of_le (round_le_pow n) with hlt | heq
      · exact round_succ_round_of_lt hlarge heven hlt
      · exact round_succ_round_of_eq hlarge heq
    exact Nat.le_trans (Nat.le_of_eq hback) (round_le_round (Nat.le_succ n))

end Rounding

end LineNumber

end Lockstep
