import Mathlib.Data.List.Basic
import Lockstep.Path

/-!
# Paths in a tree

The paths of files in a tree: names with slashes between them, where a name is
neither empty nor made of dots (`FileName`).

* `Path.splitOn_ofNames`: the names can be read off the path.
* `Path.resolve_climb`: climbing out of directories takes back their names.
* `Path.join_directory`: a name, seen from the directory of a file, is the path of
  that name beside the file.
* `Path.join_climb`: what is reached from there by climbing first.
-/

namespace Lockstep

/-! ## Splitting and joining -/

/-- Splitting a text is splitting the list of its characters. -/
theorem Text.splitOn_eq_splitOn (sep : Char) (t : Text) : splitOn sep t = List.splitOn sep t := by
  induction t with
  | nil => rfl
  | cons c t ih =>
    rw [splitOn, List.splitOn_cons_eq_if_modifyHead, ih]
    by_cases hc : c = sep
    · rw [if_pos hc, if_pos (beq_iff_eq.2 hc)]
    · rw [if_neg hc, if_neg (by simpa using hc)]
      cases hsplit : List.splitOn sep t with
      | nil => exact absurd hsplit (List.splitOn_ne_nil sep t)
      | cons piece pieces => rfl

theorem Text.splitOn_append (sep : Char) (a b : Text) :
    splitOn sep (a ++ sep :: b) = splitOn sep a ++ splitOn sep b := by
  simp only [splitOn_eq_splitOn, List.splitOn_append_cons_self]

/-- What is added at the end of a text is added to its last piece. -/
theorem Text.exists_splitOn_append (sep : Char) (t : Text) :
    ∃ front last, splitOn sep t = front ++ [last] ∧
    ∀ s, sep ∉ s → splitOn sep (t ++ s) = front ++ [last ++ s] := by
  induction t with
  | nil =>
    refine ⟨[], [], rfl, fun s hs => ?_⟩
    simp [splitOn_eq_splitOn, List.splitOn_eq_singleton hs]
  | cons c t ih =>
    obtain ⟨front, last, ht, happend⟩ := ih
    by_cases hc : c = sep
    · refine ⟨[] :: front, last, by rw [splitOn, if_pos hc, ht]; rfl, fun s hs => ?_⟩
      rw [List.cons_append, splitOn, if_pos hc, happend s hs]
      rfl
    · cases front with
      | nil =>
        refine ⟨[], c :: last, by rw [splitOn, if_neg hc, ht]; rfl, fun s hs => ?_⟩
        rw [List.cons_append, splitOn, if_neg hc, happend s hs]
        rfl
      | cons piece front =>
        refine ⟨(c :: piece) :: front, last, by rw [splitOn, if_neg hc, ht]; rfl, fun s hs => ?_⟩
        rw [List.cons_append, splitOn, if_neg hc, happend s hs]
        rfl

/-- A name that a file or a directory can have. -/
structure FileName where
  text : Text
  ne_nil : text ≠ []
  no_slash : '/' ∉ text
  ne_dot : text ≠ ['.']
  ne_dots : text ≠ ['.', '.']

namespace Path

/-- The path made of some names. -/
def ofNames (names : List FileName) : Text := ofComponents (names.map (·.text))

theorem ofNames_singleton (n : FileName) : ofNames [n] = n.text := rfl

theorem ofNames_cons (n : FileName) {ns : List FileName} (hns : ns ≠ []) :
    ofNames (n :: ns) = n.text ++ '/' :: ofNames ns := by
  cases ns with
  | nil => exact absurd rfl hns
  | cons m ns => rfl

theorem ofNames_append {ns ms : List FileName} (hns : ns ≠ []) (hms : ms ≠ []) :
    ofNames (ns ++ ms) = ofNames ns ++ '/' :: ofNames ms := by
  induction ns with
  | nil => exact absurd rfl hns
  | cons n ns ih =>
    cases ns with
    | nil => exact ofNames_cons n hms
    | cons m ns =>
      rw [List.cons_append, ofNames_cons n (by simp), ofNames_cons n (by simp), ih (by simp),
        List.append_assoc, List.cons_append]

/-- The names on a path can be read off it. -/
theorem splitOn_ofNames {ns : List FileName} (hns : ns ≠ []) :
    Text.splitOn '/' (ofNames ns) = ns.map (·.text) := by
  induction ns with
  | nil => exact absurd rfl hns
  | cons n ns ih =>
    have hone : Text.splitOn '/' n.text = [n.text] := by
      rw [Text.splitOn_eq_splitOn, List.splitOn_eq_singleton n.no_slash]
    cases ns with
    | nil => exact hone
    | cons m ns =>
      rw [ofNames_cons n (by simp), Text.splitOn_append, hone, ih (by simp), List.singleton_append,
        ← List.map_cons]

variable {ns : List FileName}

/-- Between the slashes of a path in a tree there is nothing but names. -/
theorem special_not_mem_splitOn (hns : ns ≠ []) {c : Text}
    (hc : c = [] ∨ c = ['.'] ∨ c = ['.', '.']) : c ∉ Text.splitOn '/' (ofNames ns) := by
  rw [splitOn_ofNames hns, List.mem_map]
  rintro ⟨n, -, rfl⟩
  rcases hc with h | h | h
  · exact n.ne_nil h
  · exact n.ne_dot h
  · exact n.ne_dots h

theorem ofNames_ne_nil (hns : ns ≠ []) : ofNames ns ≠ [] := by
  intro h
  exact special_not_mem_splitOn hns (.inl rfl) (by rw [h]; exact List.mem_singleton_self _)

theorem head?_ofNames (hns : ns ≠ []) : (ofNames ns).head? ≠ some '/' := by
  intro h
  obtain ⟨rest, hrest⟩ := List.head?_eq_some_iff.1 h
  have hsplit := Text.splitOn_append '/' [] rest
  rw [List.nil_append, ← hrest] at hsplit
  exact special_not_mem_splitOn hns (.inl rfl) (hsplit ▸ List.mem_cons_self)

theorem getLast?_ofNames (hns : ns ≠ []) : (ofNames ns).getLast? ≠ some '/' := by
  intro h
  obtain ⟨front, hfront⟩ := List.getLast?_eq_some_iff.1 h
  have hsplit := Text.splitOn_append '/' front []
  rw [← hfront] at hsplit
  exact special_not_mem_splitOn hns (.inl rfl)
    (hsplit ▸ List.mem_append_right _ (List.mem_singleton_self _))

/-- A path begins with the names of another one exactly if it is this path, or goes on behind it. -/
theorem names_prefix_iff {ps : List FileName} (hns : ns ≠ []) (hps : ps ≠ []) :
    ns.map (·.text) <+: ps.map (·.text) ↔
      ofNames ps = ofNames ns ∨ ofNames ns ++ ['/'] <+: ofNames ps := by
  constructor
  · rintro ⟨rest, hrest⟩
    obtain ⟨before, behind, rfl, hbefore, -⟩ := List.map_eq_append_iff.1 hrest.symm
    have hsame : ofNames before = ofNames ns := congrArg ofComponents hbefore
    by_cases hbehind : behind = []
    · rw [hbehind, List.append_nil]
      exact .inl hsame
    · have hne : before ≠ [] := by
        rintro rfl
        exact hns (List.map_eq_nil_iff.1 hbefore.symm)
      rw [ofNames_append hne hbehind, hsame]
      exact .inr ⟨ofNames behind, by rw [List.append_assoc, List.singleton_append]⟩
  · rintro (h | ⟨rest, hrest⟩)
    · have htexts : ns.map (·.text) = ps.map (·.text) := by
        rw [← splitOn_ofNames hns, ← splitOn_ofNames hps, h]
      exact ⟨[], by rw [List.append_nil, htexts]⟩
    · rw [List.append_assoc, List.singleton_append] at hrest
      rw [← splitOn_ofNames hns, ← splitOn_ofNames hps, ← hrest, Text.splitOn_append]
      exact List.prefix_append _ _

/-! ## There is nothing to resolve -/

/-- Names are added to those before them. -/
theorem foldl_names (absolute : Bool) (ns : List FileName) (before : List Text) :
    (ns.map (·.text)).foldl (addComponent absolute) before =
      (ns.map (·.text)).reverse ++ before := by
  induction ns generalizing before with
  | nil => rfl
  | cons n ns ih =>
    have hadd : addComponent absolute before n.text = n.text :: before := by
      unfold addComponent
      rw [if_neg (not_or.2 ⟨n.ne_nil, n.ne_dot⟩), if_neg n.ne_dots]
    rw [List.map_cons, List.foldl_cons, hadd, ih, List.reverse_cons, List.append_assoc,
      List.singleton_append]

theorem resolve_names (absolute : Bool) (ns : List FileName) :
    resolve absolute (ns.map (·.text)) = ns.map (·.text) := by
  rw [resolve, foldl_names, List.append_nil, List.reverse_reverse]

/-- A relative path that does not end in a slash is put together from what is left of it. -/
theorem normalize_eq {p body : Text} (hhead : p.head? ≠ some '/') (hlast : p.getLast? ≠ some '/')
    (hp : p ≠ []) (hbody : ofComponents (resolve false (Text.splitOn '/' p)) = body)
    (hne : body ≠ []) : normalize p = body := by
  obtain ⟨c, rest, rfl⟩ := List.exists_cons_of_ne_nil hp
  obtain ⟨d, tail, rfl⟩ := List.exists_cons_of_ne_nil hne
  simp only [normalize, hhead, hlast, decide_false, hbody, if_false]

/-! ## Climbing -/

/-- The way out of `n` directories, one after the other. -/
def climb (n : Nat) : Text := (List.replicate n ['.', '.', '/']).flatten

theorem splitOn_climb (n : Nat) (t : Text) :
    Text.splitOn '/' (climb n ++ t) = List.replicate n ['.', '.'] ++ Text.splitOn '/' t := by
  induction n with
  | zero => rfl
  | succ n ih =>
    have hsplit := Text.splitOn_append '/' ['.', '.'] (climb n ++ t)
    rw [ih] at hsplit
    exact hsplit

/-- Two dots for each of the names that were added last take them back. -/
theorem foldl_dots (absolute : Bool) (ns : List FileName) (before : List Text) :
    (List.replicate ns.length ['.', '.']).foldl (addComponent absolute)
      (ns.map (·.text) ++ before) = before := by
  induction ns with
  | nil => rfl
  | cons n ns ih =>
    have hadd : addComponent absolute (n.text :: (ns.map (·.text) ++ before)) ['.', '.'] =
        ns.map (·.text) ++ before := by
      simp [addComponent, n.ne_dots]
    rw [List.length_cons, List.replicate_succ, List.foldl_cons, List.map_cons, List.cons_append,
      hadd, ih]

/-- What is left of a way that goes down into directories, out of some of them again, and down
another way. -/
theorem resolve_climb (absolute : Bool) (shared more rest : List FileName) :
    resolve absolute ((shared ++ more).map (·.text) ++
      (List.replicate more.length ['.', '.'] ++ rest.map (·.text))) =
        (shared ++ rest).map (·.text) := by
  have hdown : ((shared ++ more).map (·.text)).foldl (addComponent absolute) [] =
      more.reverse.map (·.text) ++ (shared.map (·.text)).reverse := by
    rw [foldl_names, List.append_nil, List.map_append, List.reverse_append, List.map_reverse]
  have hup := foldl_dots absolute more.reverse (shared.map (·.text)).reverse
  rw [List.length_reverse] at hup
  rw [resolve, List.foldl_append, List.foldl_append, hdown, hup, foldl_names, List.reverse_append,
    List.reverse_reverse, List.reverse_reverse, List.map_append]

/-- A single dot leads nowhere else. -/
theorem resolve_dot (absolute : Bool) (before behind : List Text) :
    resolve absolute (before ++ ['.'] :: behind) = resolve absolute (before ++ behind) := by
  rw [resolve, resolve, List.foldl_append, List.foldl_append, List.foldl_cons]
  rfl

/-! ## Beside a file -/

/-- Cutting the name off the end of a path, which is held backwards. -/
theorem dropWhile_name (n : FileName) (before : Text) :
    ((n.text.reverse ++ before).dropWhile (· = '/')).dropWhile (· ≠ '/') =
      before.dropWhile (· ≠ '/') := by
  have hall : ∀ c ∈ n.text.reverse, c ≠ '/' := by
    rintro c hc rfl
    exact n.no_slash (List.mem_reverse.1 hc)
  have hstart : (n.text.reverse ++ before).dropWhile (· = '/') = n.text.reverse ++ before := by
    obtain ⟨c, rest, hrest⟩ := List.exists_cons_of_ne_nil (mt List.reverse_eq_nil_iff.1 n.ne_nil)
    have hc : c ≠ '/' := hall c (by rw [hrest]; exact List.mem_cons_self)
    rw [hrest, List.cons_append, List.dropWhile_cons_of_neg (by simpa using hc)]
  rw [hstart, List.dropWhile_append_of_pos fun c hc => decide_eq_true (hall c hc)]

theorem directory_name (n : FileName) : directory n.text = ['.'] := by
  have hhead : n.text.head? ≠ some '/' := head?_ofNames (List.cons_ne_nil n [])
  have hnone := dropWhile_name n []
  rw [List.append_nil, List.dropWhile_nil] at hnone
  unfold directory
  simp only [hnone, hhead, if_false]

theorem directory_ofNames {dir : List FileName} (hdir : dir ≠ []) (n : FileName) :
    directory (ofNames (dir ++ [n])) = ofNames dir := by
  have hhead := head?_ofNames (List.append_ne_nil_of_right_ne_nil dir (List.cons_ne_nil n []))
  have hcut := dropWhile_name n ('/' :: (ofNames dir).reverse)
  have hreverse : (ofNames (dir ++ [n])).reverse =
      n.text.reverse ++ '/' :: (ofNames dir).reverse := by
    rw [ofNames_append hdir (by simp), ofNames_singleton, List.reverse_append, List.reverse_cons,
      List.append_assoc, List.singleton_append]
  rw [← hreverse, List.dropWhile_cons_of_neg (by simp)] at hcut
  obtain ⟨c, rest, hrest⟩ :=
    List.exists_cons_of_ne_nil (mt List.reverse_eq_nil_iff.1 (ofNames_ne_nil hdir))
  have hdirectory : (c :: rest).reverse = ofNames dir := by rw [← hrest, List.reverse_reverse]
  unfold directory
  simp only [hcut, hrest, hhead, false_and, if_false, hdirectory]

/-- What is seen from the directory of a file is resolved together with the names on the way to that
directory. -/
theorem join_directory_eq (dir : List FileName) (file : FileName) {t body : Text} (ht : t ≠ [])
    (hlast : t.getLast? ≠ some '/')
    (hbody : ofComponents (resolve false (dir.map (·.text) ++ Text.splitOn '/' t)) = body)
    (hne : body ≠ []) : join (directory (ofNames (dir ++ [file]))) t = body := by
  have hend : ∀ start : Text, (start ++ '/' :: t).getLast? ≠ some '/' := by
    intro start
    obtain ⟨c, rest, rfl⟩ := List.exists_cons_of_ne_nil ht
    rwa [List.getLast?_append_of_ne_nil _ (by simp), List.getLast?_cons_cons]
  by_cases hdir : dir = []
  · subst hdir
    have hjoin : join ['.'] t = normalize (['.'] ++ '/' :: t) := by
      simp [join, ht, ofComponents]
    rw [List.nil_append, ofNames_singleton, directory_name, hjoin]
    refine normalize_eq (by simp) (hend _) (by simp) ?_ hne
    rw [Text.splitOn_append]
    exact (congrArg ofComponents (resolve_dot false [] (Text.splitOn '/' t))).trans hbody
  · have hdirNe := ofNames_ne_nil hdir
    have hjoin : join (ofNames dir) t = normalize (ofNames dir ++ '/' :: t) := by
      simp [join, ht, hdirNe, ofComponents]
    rw [directory_ofNames hdir, hjoin]
    refine normalize_eq ?_ (hend _) (by simp) ?_ hne
    · rw [List.head?_append_of_ne_nil _ hdirNe]
      exact head?_ofNames hdir
    · rw [Text.splitOn_append, splitOn_ofNames hdir, hbody]

/-- A name, seen from the directory of a file, is the path of this name beside the file. -/
theorem join_directory (dir : List FileName) (file n : FileName) :
    join (directory (ofNames (dir ++ [file]))) n.text = ofNames (dir ++ [n]) := by
  have hone : Text.splitOn '/' n.text = [n.text] := splitOn_ofNames (List.cons_ne_nil n [])
  refine join_directory_eq dir file n.ne_nil (getLast?_ofNames (List.cons_ne_nil n [])) ?_
    (ofNames_ne_nil (by simp))
  have hresolve := resolve_names false (dir ++ [n])
  rw [List.map_append] at hresolve
  rw [hone, ofNames, List.map_append]
  exact congrArg ofComponents hresolve

section Climb

variable (shared more : List FileName) (file : FileName) {rest : List FileName} (hrest : rest ≠ [])

include hrest

theorem head?_climb_ofNames (n : Nat) : (climb n ++ ofNames rest).head? ≠ some '/' := by
  cases n with
  | zero => exact head?_ofNames hrest
  | succ n => simp [climb, List.replicate_succ]

theorem getLast?_climb_ofNames (n : Nat) : (climb n ++ ofNames rest).getLast? ≠ some '/' := by
  rw [List.getLast?_append_of_ne_nil _ (ofNames_ne_nil hrest)]
  exact getLast?_ofNames hrest

/-- From the directory of a file, out of some directories and down another way. -/
theorem join_climb : join (directory (ofNames (shared ++ more ++ [file])))
    (climb more.length ++ ofNames rest) = ofNames (shared ++ rest) := by
  refine join_directory_eq (shared ++ more) file (by simp [ofNames_ne_nil hrest])
    (getLast?_climb_ofNames hrest _) ?_ (ofNames_ne_nil (by simp [hrest]))
  rw [splitOn_climb, splitOn_ofNames hrest, resolve_climb, ofNames]

/-- A reference to the directory itself may come first. -/
theorem join_dot_climb : join (directory (ofNames (shared ++ more ++ [file])))
    ('.' :: '/' :: (climb more.length ++ ofNames rest)) = ofNames (shared ++ rest) := by
  have hsplit : Text.splitOn '/' ('.' :: '/' :: (climb more.length ++ ofNames rest)) =
      ['.'] :: (List.replicate more.length ['.', '.'] ++ rest.map (·.text)) := by
    rw [← splitOn_ofNames hrest, ← splitOn_climb]
    exact Text.splitOn_append '/' ['.'] _
  refine join_directory_eq (shared ++ more) file (by simp) ?_ ?_ (ofNames_ne_nil (by simp [hrest]))
  · show (['.', '/'] ++ (climb more.length ++ ofNames rest)).getLast? ≠ some '/'
    rw [List.getLast?_append_of_ne_nil _ (by simp [ofNames_ne_nil hrest])]
    exact getLast?_climb_ofNames hrest _
  · rw [hsplit, resolve_dot, resolve_climb, ofNames]

end Climb

end Path

end Lockstep
