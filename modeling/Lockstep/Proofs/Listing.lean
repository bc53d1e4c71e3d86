import Mathlib.Data.List.Nodup
import Lockstep.Git.Source
import Lockstep.Proofs.Path

/-!
# Listings

How a listing of files is taken apart, and in which order files are put.

* `Text.units_injective`: a text is known from its 16-bit units.
* `Text.sortBy_eq_of_perm`: items with distinct keys are sorted into one order,
  whatever order they came in.
* `Text.splitNul_terminated`: the fields of a listing come back as they were.
* `Git.pairUp_statusFields`: letters and paths come back as files with a status.
-/

namespace Lockstep

namespace Text

/-! ## Units -/

/-- The units of a character, and the first of them, tell the character from any other that goes on
differently. -/
theorem unitsOf_append_inj {c d : Char} {a b : List Nat} (h : unitsOf c ++ a = unitsOf d ++ b) :
    c = d ∧ a = b := by
  -- no character has a number between those of a pair
  have hvalid : ∀ e : Char, e.toNat < 0xD800 ∨ 0xDFFF < e.toNat ∧ e.toNat < 0x110000 :=
    fun e => e.valid
  have hc := hvalid c
  have hd := hvalid d
  unfold unitsOf at h
  split at h <;> split at h
  · simp only [List.cons_append, List.nil_append, List.cons.injEq] at h
    exact ⟨Char.toNat_inj.1 h.1, h.2⟩
  · simp only [List.cons_append, List.nil_append, List.cons.injEq] at h
    omega
  · simp only [List.cons_append, List.nil_append, List.cons.injEq] at h
    omega
  · simp only [List.cons_append, List.nil_append, List.cons.injEq] at h
    obtain ⟨hhigh, hlow, hrest⟩ := h
    exact ⟨Char.toNat_inj.1 (by omega), hrest⟩

theorem unitsOf_ne_nil (c : Char) : unitsOf c ≠ [] := by
  unfold unitsOf
  split <;> exact List.cons_ne_nil _ _

theorem units_injective {a b : Text} (h : units a = units b) : a = b := by
  induction a generalizing b with
  | nil =>
    cases b with
    | nil => rfl
    | cons d b => simp [units, unitsOf_ne_nil] at h
  | cons c a ih =>
    cases b with
    | nil => simp [units, unitsOf_ne_nil] at h
    | cons d b =>
      rw [units, units, List.flatMap_cons, List.flatMap_cons] at h
      obtain ⟨rfl, hrest⟩ := unitsOf_append_inj h
      rw [ih hrest]

/-! ## Order -/

theorem unitsLe_iff {a b : Text} : unitsLe a b = true ↔ ¬ units b < units a := by
  simp [unitsLe]

theorem unitsLe_trans {a b c : Text} (hab : unitsLe a b = true) (hbc : unitsLe b c = true) :
    unitsLe a c = true := by
  rw [unitsLe_iff] at *
  exact List.le_trans (List.not_lt.1 hab) (List.not_lt.1 hbc)

theorem unitsLe_total (a b : Text) : (unitsLe a b || unitsLe b a) = true := by
  rw [Bool.or_eq_true, unitsLe_iff, unitsLe_iff]
  by_contra h
  rw [not_or, not_not, not_not] at h
  exact List.lt_asymm h.1 h.2

theorem unitsLe_antisymm {a b : Text} (hab : unitsLe a b = true) (hba : unitsLe b a = true) :
    a = b := by
  rw [unitsLe_iff] at *
  exact units_injective (List.le_antisymm (List.not_lt.1 hab) (List.not_lt.1 hba))

theorem sortBy_perm {α : Type} (key : α → Text) (items : List α) : (sortBy key items).Perm items :=
  List.mergeSort_perm items _

theorem pairwise_sortBy {α : Type} (key : α → Text) (items : List α) :
    (sortBy key items).Pairwise fun a b => unitsLe (key a) (key b) = true := by
  unfold sortBy
  refine List.pairwise_mergeSort ?_ ?_ items
  · intro a b c hab hbc
    exact unitsLe_trans hab hbc
  · intro a b
    exact unitsLe_total (key a) (key b)

/-- Items with distinct keys have only one order. -/
theorem sortBy_eq_of_pairwise {α : Type} {key : α → Text} {items sorted : List α}
    (hperm : items.Perm sorted) (hkeys : (items.map key).Nodup)
    (hsorted : sorted.Pairwise fun a b => unitsLe (key a) (key b) = true) :
    sortBy key items = sorted := by
  have hsame := (sortBy_perm key items).trans hperm
  refine List.Perm.eq_of_pairwise ?_ (pairwise_sortBy key items) hsorted hsame
  intro a b ha hb hab hba
  have hkey : key a = key b := unitsLe_antisymm hab hba
  have ha' : a ∈ items := (sortBy_perm key items).mem_iff.1 ha
  exact List.inj_on_of_nodup_map hkeys ha' (hperm.mem_iff.2 hb) hkey

/-- So they are sorted into it, whatever order they came in. -/
theorem sortBy_eq_of_perm {α : Type} {key : α → Text} {items items' : List α}
    (h : items.Perm items') (hkeys : (items.map key).Nodup) :
    sortBy key items = sortBy key items' :=
  sortBy_eq_of_pairwise (h.trans (sortBy_perm key items').symm) hkeys (pairwise_sortBy key items')

/-! ## Fields -/

/-- A listing with a NUL behind every field. -/
def terminated (fields : List Text) : Text := fields.flatMap (· ++ ['\x00'])

theorem splitNul_terminated {fields : List Text} (h : ∀ t ∈ fields, '\x00' ∉ t) :
    splitNul (terminated fields) = fields := by
  have hsplit : splitOn '\x00' (terminated fields) = fields ++ [[]] := by
    induction fields with
    | nil => rfl
    | cons t fields ih =>
      have ht : splitOn '\x00' t = [t] := by
        rw [splitOn_eq_splitOn, List.splitOn_eq_singleton (h t List.mem_cons_self)]
      rw [terminated, List.flatMap_cons, List.append_assoc, List.singleton_append, splitOn_append,
        ht, List.singleton_append, List.cons_append]
      exact congrArg (t :: ·) (ih fun u hu => h u (List.mem_cons_of_mem _ hu))
  rw [splitNul, hsplit, dropEmptyLast, if_pos (by simp), List.dropLast_concat]

end Text

/-! ## Statuses -/

/-- The letter that a listing gives a status. -/
def ChangeStatus.letter : ChangeStatus → Char
  | .added => 'A'
  | .deleted => 'D'
  | .modified => 'M'

namespace Git

/-- The fields of a listing of changed files: for each of them a letter and its path. -/
def statusFields (files : List ChangedFile) : List Text :=
  files.flatMap fun f => [[f.status.letter], f.path]

/-- Letters and paths come back in pairs. -/
theorem pairUp_flatMap {α : Type} (letter path : α → Text) (items : List α) :
    pairUp (items.flatMap fun x => [letter x, path x]) =
      items.map fun x => ⟨path x, statusOf (letter x)⟩ := by
  induction items with
  | nil => rfl
  | cons x items ih =>
    show ⟨path x, statusOf (letter x)⟩ :: pairUp (items.flatMap fun x => [letter x, path x]) = _
    rw [ih, List.map_cons]

theorem pairUp_statusFields (files : List ChangedFile) : pairUp (statusFields files) = files := by
  have hfile : (fun f : ChangedFile => ChangedFile.mk f.path (statusOf [f.status.letter])) =
      id := by
    funext f
    obtain ⟨path, status⟩ := f
    cases status <;> rfl
  rw [statusFields, pairUp_flatMap, hfile, List.map_id]

theorem nul_not_mem_statusFields {files : List ChangedFile} (h : ∀ f ∈ files, '\x00' ∉ f.path) :
    ∀ t ∈ statusFields files, '\x00' ∉ t := by
  intro t ht
  obtain ⟨f, hf, ht⟩ := List.mem_flatMap.1 ht
  rcases List.mem_cons.1 ht with rfl | ht
  · cases f.status <;> decide
  · rw [List.mem_singleton.1 ht]
    exact h f hf

end Git

end Lockstep
