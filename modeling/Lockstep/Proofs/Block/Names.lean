import Mathlib.Tactic.Common
import Lockstep.Check.File
import Lockstep.Check.Scan

/-!
# Names that mean one block

A block is referred to by its name, and the first block of a name is the one that is
meant.  Names that are given again are counted here, and it is shown that without
them a name means one block or none.

* `length_duplicateNames`: every name that is not the first of its kind is reported.
* `count_checkNames`: the number that is given is that of the names that are reported.
* `duplicateNames_eq_nil_iff`: nothing is reported exactly if all names are distinct.
* `Check.lookup_of_nodup`: among blocks with distinct names, a search finds the only
  block of the name.
-/

namespace Lockstep

/-! ## Counting names -/

/-- The names of blocks, in order.  Blocks without a name do not take part. -/
def blockNames (blocks : List Block) : List Text := blocks.filterMap (·.name)

theorem blockNames_cons_none {b : Block} (h : b.name = none) (blocks : List Block) :
    blockNames (b :: blocks) = blockNames blocks := by
  simp [blockNames, h]

theorem blockNames_cons_some {b : Block} {name : Text} (h : b.name = some name)
    (blocks : List Block) : blockNames (b :: blocks) = name :: blockNames blocks := by
  simp [blockNames, h]

section After

variable (seen : List Text) (count : Nat)

/-- The number that is given is the number of the blocks that are reported, and of those before. -/
theorem count_checkNamesAfter (blocks : List Block) :
    (checkNamesAfter seen count blocks).count =
      count + (checkNamesAfter seen count blocks).duplicates.length := by
  induction blocks generalizing seen count with
  | nil => rfl
  | cons b blocks ih =>
    cases hname : b.name with
    | none => simpa only [checkNamesAfter, hname] using ih seen count
    | some name =>
      rw [checkNamesAfter, hname]
      dsimp only
      cases seen.contains name with
      | true =>
        have hrest := ih seen (count + 1)
        simp only [if_true, List.length_cons]
        omega
      | false => exact ih (name :: seen) count

/-- Of the names in order, those that are new each count once, and all others are duplicates. -/
theorem length_checkNamesAfter (blocks : List Block) :
    (checkNamesAfter seen count blocks).duplicates.length +
      ((blockNames blocks).filter (!seen.contains ·)).eraseDups.length =
        (blockNames blocks).length := by
  induction blocks generalizing seen count with
  | nil => rfl
  | cons b blocks ih =>
    cases hname : b.name with
    | none =>
      simpa only [checkNamesAfter, hname, blockNames_cons_none hname] using ih seen count
    | some name =>
      rw [checkNamesAfter, hname, blockNames_cons_some hname, List.filter_cons, List.length_cons]
      dsimp only
      cases hseen : seen.contains name with
      | true =>
        have hrest := ih seen (count + 1)
        simp only [Bool.not_true, Bool.false_eq_true, if_false, if_true, List.length_cons]
        omega
      | false =>
        have hnew : (blockNames blocks).filter (!(name :: seen).contains ·) =
            ((blockNames blocks).filter (!seen.contains ·)).filter (!· == name) := by
          rw [List.filter_filter]
          refine List.filter_congr fun other _ => ?_
          rw [List.contains_cons, Bool.not_or]
        have hrest := ih (name :: seen) count
        rw [hnew] at hrest
        simp only [Bool.not_false, Bool.false_eq_true, if_false, if_true, List.eraseDups_cons,
          List.length_cons]
        omega

theorem checkNamesAfter_eq_nil_iff (blocks : List Block) :
    (checkNamesAfter seen count blocks).duplicates = [] ↔
      (blockNames blocks).Nodup ∧ ∀ name ∈ blockNames blocks, name ∉ seen := by
  induction blocks generalizing seen count with
  | nil => simp [checkNamesAfter, blockNames]
  | cons b blocks ih =>
    cases hname : b.name with
    | none =>
      simpa only [checkNamesAfter, hname, blockNames_cons_none hname] using ih seen count
    | some name =>
      rw [checkNamesAfter, hname, blockNames_cons_some hname, List.nodup_cons,
        List.forall_mem_cons]
      dsimp only
      by_cases hseen : name ∈ seen
      · rw [if_pos (by simpa using hseen)]
        simp [hseen]
      · rw [if_neg (by simpa using hseen), ih]
        constructor
        · rintro ⟨hnodup, hfree⟩
          have hfresh : name ∉ blockNames blocks := fun h => hfree name h List.mem_cons_self
          exact ⟨⟨hfresh, hnodup⟩, hseen, fun n hn h => hfree n hn (List.mem_cons_of_mem _ h)⟩
        · rintro ⟨⟨hfresh, hnodup⟩, -, hfree⟩
          refine ⟨hnodup, fun n hn h => ?_⟩
          rcases List.mem_cons.1 h with rfl | h
          · exact hfresh hn
          · exact hfree n hn h

end After

/-- The number that is given is the number of the blocks that are reported. -/
theorem count_checkNames (blocks : List Block) :
    (checkNames blocks).count = (duplicateNames blocks).length :=
  (count_checkNamesAfter [] 0 blocks).trans (Nat.zero_add _)

/-- A name is reported each time that it is given again: as many names are reported as there are
more names than distinct ones. -/
theorem length_duplicateNames (blocks : List Block) :
    (duplicateNames blocks).length + (blockNames blocks).eraseDups.length =
      (blockNames blocks).length := by
  have hall : (blockNames blocks).filter (!([] : List Text).contains ·) = blockNames blocks :=
    List.filter_eq_self.2 fun _ _ => rfl
  have h := length_checkNamesAfter [] 0 blocks
  rwa [hall] at h

theorem duplicateNames_eq_nil_iff (blocks : List Block) :
    duplicateNames blocks = [] ↔ (blockNames blocks).Nodup := by
  rw [duplicateNames, checkNames, checkNamesAfter_eq_nil_iff]
  simp

/-! ## Blocks among findings -/

/-- The blocks among findings, in order. -/
def foundBlocks (fs : List Finding) : List Block :=
  fs.filterMap fun
    | .block b => some b
    | .broken _ => none

namespace Check

/-- Findings that end without errors are blocks and nothing else, if errors come with a message. -/
theorem blocksAndErrors_of_sound {fs : List Finding}
    (hne : ∀ errors, .broken errors ∈ fs → errors ≠ []) (h : (blocksAndErrors fs).2 = []) :
    (∀ errors, Finding.broken errors ∉ fs) ∧ (blocksAndErrors fs).1 = foundBlocks fs := by
  induction fs with
  | nil => exact ⟨fun _ => List.not_mem_nil, rfl⟩
  | cons f fs ih =>
    cases f with
    | broken errors => exact absurd h (hne errors List.mem_cons_self)
    | block b =>
      obtain ⟨hsound, hblocks⟩ := ih (fun errors he => hne errors (List.mem_cons_of_mem _ he)) h
      refine ⟨fun errors he => ?_, congrArg (b :: ·) hblocks⟩
      rcases List.mem_cons.1 he with he | he
      · cases he
      · exact hsound errors he

/-- Where no name is given twice and nothing is in error, a search finds the one block of a name, or
there is no such block. -/
theorem lookup_of_nodup {fs : List Finding} (hsound : ∀ errors, Finding.broken errors ∉ fs)
    (hnodup : (blockNames (foundBlocks fs)).Nodup) (name : Text) :
    (lookup name fs = .absent ∧ (foundBlocks fs).filter (·.name = some name) = []) ∨
      ∃ b, lookup name fs = .found b ∧ (foundBlocks fs).filter (·.name = some name) = [b] := by
  induction fs with
  | nil => exact .inl ⟨rfl, rfl⟩
  | cons f fs ih =>
    cases f with
    | broken errors => exact absurd List.mem_cons_self (hsound errors)
    | block b =>
      have hblocks : foundBlocks (.block b :: fs) = b :: foundBlocks fs := rfl
      have hrest : ∀ errors, Finding.broken errors ∉ fs :=
        fun errors he => hsound errors (List.mem_cons_of_mem _ he)
      rw [hblocks] at hnodup ⊢
      rw [lookup, List.filter_cons]
      by_cases hb : b.name = some name
      · -- no later block has the name
        rw [blockNames_cons_some hb, List.nodup_cons] at hnodup
        have hnone : (foundBlocks fs).filter (·.name = some name) = [] := by
          rw [List.filter_eq_nil_iff]
          intro c hc hname
          exact hnodup.1 (List.mem_filterMap.2 ⟨c, hc, by simpa using hname⟩)
        exact .inr ⟨b, by rw [if_pos hb], by simp [hb, hnone]⟩
      · have htail : (blockNames (foundBlocks fs)).Nodup :=
          hnodup.sublist ((List.sublist_cons_self b _).filterMap _)
        rw [if_neg hb, if_neg (by simpa using hb)]
        exact ih hrest htail

end Check

end Lockstep
