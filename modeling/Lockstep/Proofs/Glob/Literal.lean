import Lockstep.Proofs.Listing
import Lockstep.Proofs.Path
import Lockstep.Proofs.Selection
import Lockstep.Proofs.Text

/-!
# Patterns that spell a path

A pattern in which nothing is special stands for itself, and for all that lies
below.

* `Glob.isPlain`: a text without stars, question marks, brackets, braces and
  backslashes, and without groups.
* `Glob.Segment.read_plain`: a plain segment of a pattern is compared as it stands.
* `Pattern.matches_ofNames_iff`: a plain path, read as a pattern, matches this path
  and what lies below it, and no other path of a tree.
* `Pattern.test_slashed_iff`: and so it does with slashes around it.
-/

namespace Lockstep

/-- Without an opening brace there is no group. -/
theorem Brace.expand_of_not_mem {t : Text} (h : '{' ∉ t) : Brace.expand t = [t] := by
  have hgroup : Brace.hasGroup false t = false := by
    induction t with
    | nil => rfl
    | cons c t ih =>
      rw [List.mem_cons, not_or] at h
      rw [Brace.hasGroup, if_neg (Ne.symm h.1), Bool.and_false, if_neg Bool.false_ne_true,
        Bool.false_and, ih h.2]
  unfold Brace.expand
  rw [hgroup, if_neg Bool.false_ne_true]

theorem Text.unitLength_append (a b : Text) :
    unitLength (a ++ b) = unitLength a + unitLength b := by
  induction a with
  | nil => rw [List.nil_append, unitLength, Nat.zero_add]
  | cons c a ih => rw [List.cons_append, unitLength, unitLength, ih, Nat.add_assoc]

namespace Glob

/-! ## Plain texts -/

/-- The characters that are special wherever they stand. -/
def specials : Text := ['*', '?', '[', '{', '\\']

/-- The other characters that announce a group when a parenthesis follows. -/
def groupSigns : Text := ['@', '+', '!']

/-- Whether nothing in a text is special in a pattern. -/
def isPlain : Text → Bool
  | [] => true
  | c :: rest =>
    !specials.contains c && !(groupSigns.contains c && rest.head? = some '(') && isPlain rest

theorem isPlain_cons {c : Char} {rest : Text} (h : isPlain (c :: rest) = true) :
    c ∉ specials ∧ (rest.head? = some '(' → c ∉ groupSigns) ∧ isPlain rest = true := by
  simp only [isPlain, Bool.and_eq_true, Bool.not_eq_true', Bool.and_eq_false_iff] at h
  obtain ⟨⟨hspecial, hsign⟩, hrest⟩ := h
  refine ⟨by simpa using hspecial, fun hgroup => ?_, hrest⟩
  simpa [hgroup] using hsign

theorem not_mem_of_isPlain {t : Text} (h : isPlain t = true) {c : Char} (hc : c ∈ specials) :
    c ∉ t := by
  induction t with
  | nil => exact List.not_mem_nil
  | cons d t ih =>
    obtain ⟨hd, -, hrest⟩ := isPlain_cons h
    rw [List.mem_cons, not_or]
    exact ⟨by rintro rfl; exact hd hc, ih hrest⟩

/-- Where there is no parenthesis either, nothing can announce a group. -/
theorem isPlain_of_all {t : Text} (h : t.all (!('(' :: specials).contains ·) = true) :
    isPlain t = true := by
  induction t with
  | nil => rfl
  | cons c t ih =>
    rw [List.all_cons, Bool.and_eq_true] at h
    obtain ⟨hc, ht⟩ := h
    have hspecial : c ∉ specials := by
      intro hmem
      simp [hmem] at hc
    have hgroup : t.head? ≠ some '(' := by
      intro hhead
      simpa using List.all_eq_true.1 ht '(' (List.mem_of_mem_head? hhead)
    simp [isPlain, hspecial, hgroup, ih ht]

/-- A slash announces no group, so that the parts around it are plain by themselves. -/
theorem isPlain_append (a b : Text) : isPlain (a ++ '/' :: b) = (isPlain a && isPlain b) := by
  induction a with
  | nil => simp [isPlain, specials, groupSigns]
  | cons c a ih =>
    have hhead : ((a ++ '/' :: b).head? = some '(') ↔ (a.head? = some '(') := by
      cases a <;> simp
    simp only [List.cons_append, isPlain, ih, hhead, Bool.and_assoc]

theorem isPlain_of_mem {ns : List FileName} (h : isPlain (Path.ofNames ns) = true) {n : FileName}
    (hn : n ∈ ns) : isPlain n.text = true := by
  induction ns with
  | nil => cases hn
  | cons m ns ih =>
    cases ns with
    | nil =>
      rw [List.mem_singleton.1 hn]
      exact h
    | cons m' ns =>
      rw [Path.ofNames_cons m (by simp), isPlain_append, Bool.and_eq_true] at h
      rcases List.mem_cons.1 hn with rfl | hn
      · exact h.1
      · exact ih h.2 hn

/-! ## Reading plain texts -/

theorem readPartsFrom_plain {t : Text} (h : isPlain t = true) (before : Text) :
    readPartsFrom { run := before } t = Part.ofRun (before.reverse ++ t) := by
  induction t generalizing before with
  | nil => rw [readPartsFrom, PartReader.finish, List.append_nil]; rfl
  | cons c t ih =>
    obtain ⟨hc, hsign, hrest⟩ := isPlain_cons h
    simp only [specials, List.mem_cons, List.not_mem_nil, or_false, not_or] at hc
    obtain ⟨hstar, hmark, hbracket, -, hslash⟩ := hc
    have hgroup : groupAt? [] c t = none := by
      unfold groupAt?
      split
      · next hparen =>
        have hc := hsign hparen
        simp only [groupSigns, List.mem_cons, List.not_mem_nil, or_false, not_or] at hc
        simp [GroupKind.ofSign?, GroupKind.sign, Ne.symm hc.1, Ne.symm hc.2.1, Ne.symm hc.2.2,
          Ne.symm hstar, Ne.symm hmark]
      · rfl
    have hstep : readPartsFrom { run := before } (c :: t) =
        readPartsFrom { run := c :: before } t := by
      rw [readPartsFrom]
      simp only [hslash, hbracket, hgroup]
      rfl
    rw [hstep, ih hrest, List.reverse_cons, List.append_assoc, List.singleton_append]

/-- A plain text is one run, and nothing in it is to be merged or copied. -/
theorem parts_plain {t : Text} (h : isPlain t = true) (hne : t ≠ []) : parts t = [.run t] := by
  have hread : readParts t = [.run t] := by
    rw [readParts, readPartsFrom_plain h, List.reverse_nil, List.nil_append, Part.ofRun,
      if_neg (by simpa using hne)]
  simp [parts, hread, Part.flattenAll, Part.flatten, Part.fillAll, Part.fill]

/-- Every character of a plain text is written as it is. -/
theorem runSigns_plain (star : List Sign) {t : Text} (h : isPlain t = true) :
    runSigns star false 0 t = t.flatMap Sign.literal := by
  induction t with
  | nil => rfl
  | cons c t ih =>
    obtain ⟨hc, -, hrest⟩ := isPlain_cons h
    simp only [specials, List.mem_cons, List.not_mem_nil, or_false, not_or] at hc
    obtain ⟨hstar, hmark, hbracket, -, hslash⟩ := hc
    unfold runSigns
    rw [if_neg hslash, if_neg hstar, if_neg hmark, if_neg hbracket, ih hrest, List.flatMap_cons]

theorem any_isMagic_literal (t : Text) : (t.flatMap Sign.literal).any Sign.isMagic = false := by
  rw [List.any_eq_false]
  intro s hs
  obtain ⟨c, -, hs⟩ := List.mem_flatMap.1 hs
  obtain ⟨n, -, rfl⟩ := List.mem_map.1 hs
  exact Bool.false_ne_true

theorem plain_literal (c : Char) : (Sign.literal c).flatMap Sign.plain = Text.unitsOf c := by
  rw [Sign.literal, List.flatMap_map]
  exact List.flatMap_singleton' _

theorem flatMap_plain_literal (t : Text) :
    (t.flatMap Sign.literal).flatMap Sign.plain = t.units := by
  rw [List.flatMap_assoc, Text.units]
  exact congrArg (List.flatMap · t) (funext plain_literal)

theorem isStars_eq_false {t : Text} (h : '*' ∉ t) : isStars t = false := by
  cases t with
  | nil => rfl
  | cons c t =>
    have hc : c ≠ '*' := fun hc => h (hc ▸ List.mem_cons_self)
    simp [isStars, hc]

theorem Segment.shape?_plain {t : Text} (h : isPlain t = true) : Segment.shape? t = none := by
  have hstar : '*' ∉ t := not_mem_of_isPlain h (by decide)
  have hmark : '?' ∉ t := not_mem_of_isPlain h (by decide)
  have hstarHead : t.head? ≠ some '*' := fun hc => hstar (List.mem_of_mem_head? hc)
  have hmarkHead : t.head? ≠ some '?' := fun hc => hmark (List.mem_of_mem_head? hc)
  have hdot : Segment.isDotStars t = false := by
    unfold Segment.isDotStars
    split
    · exact isStars_eq_false fun hc => hstar (List.mem_cons_of_mem _ hc)
    · rfl
  simp [Segment.shape?, isStars_eq_false hstar, hstarHead, hmarkHead, hdot]

/-- A plain segment is compared as it stands. -/
theorem Segment.read_plain {t : Text} (h : isPlain t = true) (hne : t ≠ []) :
    Segment.read t = .ok (.literal t.units) := by
  have hwritten : Part.writtenAll true true true (parts t) = t.flatMap Sign.literal := by
    rw [parts_plain h hne, Part.writtenAll, Part.writtenAll, List.append_nil, Part.written]
    exact runSigns_plain _ h
  have hofText : Segment.ofText t = .ok (.literal t.units) := by
    unfold Segment.ofText
    simp only [hwritten, any_isMagic_literal, flatMap_plain_literal, Bool.not_false, if_true]
  have hglobstar : t ≠ ['*', '*'] := by
    rintro rfl
    exact not_mem_of_isPlain h (c := '*') (by decide) List.mem_cons_self
  rw [Segment.read, if_neg hglobstar, if_neg (by simpa using hne), Segment.shape?_plain h]
  exact hofText

/-! ## Sections -/

/-- Segments that are compared with texts. -/
def literals (cs : List Text) : List Segment := cs.map fun c => .literal c.units

theorem tail_splitOn_cons {c : Char} (hc : c ≠ '/') (t : Text) :
    (Text.splitOn '/' (c :: t)).tail = (Text.splitOn '/' t).tail := by
  rw [Text.splitOn, if_neg hc]
  cases Text.splitOn '/' t <;> rfl

/-- Where no slashes stand in a row, they are all there is to it. -/
theorem sections_eq_splitOn {t : Text} (h : [] ∉ (Text.splitOn '/' t).tail) :
    sections t = Text.splitOn '/' t := by
  induction t with
  | nil => rfl
  | cons c t ih =>
    by_cases hc : c = '/'
    · subst hc
      rw [Text.splitOn, if_pos rfl, List.tail_cons] at h
      have hhead : t.head? ≠ some '/' := by
        intro hhead
        obtain ⟨rest, rfl⟩ := List.head?_eq_some_iff.1 hhead
        rw [Text.splitOn, if_pos rfl] at h
        exact h List.mem_cons_self
      rw [sections, if_pos rfl, if_neg hhead, Text.splitOn, if_pos rfl,
        ih fun hmem => h (List.mem_of_mem_tail hmem)]
    · rw [tail_splitOn_cons hc] at h
      rw [sections, if_neg hc, Text.splitOn, if_neg hc, ih h]

theorem foldl_addSection {ns : List FileName} (h : ∀ n ∈ ns, n.text ≠ twoStars)
    (before : List Text) :
    (ns.map (·.text)).foldl addSection before = (ns.map (·.text)).reverse ++ before := by
  induction ns generalizing before with
  | nil => rfl
  | cons n ns ih =>
    have hadd : addSection before n.text = n.text :: before := by
      unfold addSection
      cases before with
      | nil => rfl
      | cons last earlier =>
        simp [h n List.mem_cons_self, n.ne_dots]
    rw [List.map_cons, List.foldl_cons, hadd, ih (fun m hm => h m (List.mem_cons_of_mem _ hm)),
      List.reverse_cons, List.append_assoc, List.singleton_append]

section Names

variable {ns : List FileName}

theorem sections_ofNames (hns : ns ≠ []) : sections (Path.ofNames ns) = ns.map (·.text) := by
  rw [sections_eq_splitOn, Path.splitOn_ofNames hns]
  exact fun hmem => Path.special_not_mem_splitOn hns (.inl rfl) (List.mem_of_mem_tail hmem)

theorem sections_ofNames_below (hns : ns ≠ []) :
    sections (Path.ofNames ns ++ Pattern.below) = ns.map (·.text) ++ [twoStars] := by
  have hsplit : Text.splitOn '/' (Path.ofNames ns ++ Pattern.below) =
      ns.map (·.text) ++ [twoStars] := by
    rw [← Path.splitOn_ofNames hns]
    exact Text.splitOn_append '/' (Path.ofNames ns) twoStars
  rw [sections_eq_splitOn, hsplit]
  intro hmem
  rw [hsplit] at hmem
  rcases List.mem_append.1 (List.mem_of_mem_tail hmem) with hmem | hmem
  · obtain ⟨n, -, hn⟩ := List.mem_map.1 hmem
    exact n.ne_nil hn
  · exact absurd hmem (by decide)

theorem simplify_names (hns : ns ≠ []) (hstars : ∀ n ∈ ns, n.text ≠ twoStars) :
    simplify (ns.map (·.text)) = ns.map (·.text) := by
  obtain ⟨n, ms, rfl⟩ := List.exists_cons_of_ne_nil hns
  unfold simplify
  rw [foldl_addSection hstars, List.append_nil, List.reverse_reverse]
  rfl

theorem simplify_names_below (hns : ns ≠ []) (hstars : ∀ n ∈ ns, n.text ≠ twoStars) :
    simplify (ns.map (·.text) ++ [twoStars]) = ns.map (·.text) ++ [twoStars] := by
  have hfold : (ns.map (·.text) ++ [twoStars]).foldl addSection [] =
      twoStars :: (ns.map (·.text)).reverse := by
    rw [List.foldl_append, foldl_addSection hstars, List.append_nil, List.foldl_cons,
      List.foldl_nil]
    cases hreverse : (ns.map (·.text)).reverse with
    | nil => simp [hns] at hreverse
    | cons t ts =>
      -- the last name is not two stars, so these are not dropped
      have ht : t ∈ (ns.map (·.text)).reverse := hreverse ▸ List.mem_cons_self
      obtain ⟨n, hn, rfl⟩ := List.mem_map.1 (List.mem_reverse.1 ht)
      simpa [addSection, twoStars] using hstars n hn
  unfold simplify
  rw [hfold, List.reverse_cons, List.reverse_reverse]
  obtain ⟨n, ms, rfl⟩ := List.exists_cons_of_ne_nil hns
  rfl

variable (hplain : isPlain (Path.ofNames ns) = true)

include hplain

theorem ne_twoStars_of_mem {n : FileName} (hn : n ∈ ns) : n.text ≠ twoStars := by
  intro h
  have hstar := not_mem_of_isPlain (isPlain_of_mem hplain hn) (c := '*') (by decide)
  rw [h] at hstar
  exact hstar List.mem_cons_self

theorem mapM_read_names :
    (ns.map (·.text)).mapM Segment.read = .ok (literals (ns.map (·.text))) := by
  have hread : ∀ n ∈ ns, Segment.read n.text = .ok (.literal n.text.units) :=
    fun n hn => Segment.read_plain (isPlain_of_mem hplain hn) n.ne_nil
  clear hplain
  induction ns with
  | nil => rfl
  | cons n ns ih =>
    rw [List.forall_mem_cons] at hread
    rw [List.map_cons, List.mapM_cons, hread.1, ih hread.2]
    rfl

/-- A plain path is read name by name. -/
theorem read_ofNames (hns : ns ≠ []) :
    Glob.read (Path.ofNames ns) = .ok ⟨[literals (ns.map (·.text))]⟩ := by
  have hbrace : '{' ∉ Path.ofNames ns := not_mem_of_isPlain hplain (by decide)
  rw [Glob.read, Brace.expand_of_not_mem hbrace, List.mapM_cons, sections_ofNames hns,
    simplify_names hns fun n => ne_twoStars_of_mem hplain, mapM_read_names hplain]
  rfl

/-- What lies below a plain path is read name by name, and then as two stars. -/
theorem read_ofNames_below (hns : ns ≠ []) : Glob.read (Path.ofNames ns ++ Pattern.below) =
    .ok ⟨[literals (ns.map (·.text)) ++ [.globstar]]⟩ := by
  have hbrace : '{' ∉ Path.ofNames ns ++ Pattern.below := by
    rw [List.mem_append, not_or]
    exact ⟨not_mem_of_isPlain hplain (by decide), by decide⟩
  rw [Glob.read, Brace.expand_of_not_mem hbrace, List.mapM_cons, sections_ofNames_below hns,
    simplify_names_below hns fun n => ne_twoStars_of_mem hplain, List.mapM_append,
    mapM_read_names hplain]
  rfl

end Names

/-! ## Matching -/

theorem accepts_literal_iff (c p : Text) : (Segment.literal c.units).accepts p = true ↔ p = c := by
  rw [Segment.accepts, decide_eq_true_eq]
  exact ⟨Text.units_injective, congrArg Text.units⟩

/-- Without stars there is one stretch. -/
theorem stretches_literals (cs : List Text) : stretches (literals cs) = [literals cs] := by
  induction cs with
  | nil => rfl
  | cons c cs ih =>
    show stretches (.literal c.units :: literals cs) = _
    rw [stretches, ih]
    · rfl
    · simp

theorem stretches_literals_globstar (cs : List Text) :
    stretches (literals cs ++ [.globstar]) = [literals cs, []] := by
  induction cs with
  | nil => rfl
  | cons c cs ih =>
    show stretches (.literal c.units :: (literals cs ++ [.globstar])) = _
    rw [stretches, ih]
    · rfl
    · simp

/-- Literal segments match a path that has just these segments.  Its last one may be empty. -/
theorem stretchMatches_literals (cs ps : List Text) :
    stretchMatches (literals cs) ps = true ↔ ps = cs ∨ ps = cs ++ [[]] := by
  induction cs generalizing ps with
  | nil => simp [literals, stretchMatches]
  | cons c cs ih =>
    cases ps with
    | nil => simp [literals, stretchMatches]
    | cons p ps =>
      have hstep : stretchMatches (literals (c :: cs)) (p :: ps) =
          ((Segment.literal c.units).accepts p && stretchMatches (literals cs) ps) := rfl
      rw [hstep, Bool.and_eq_true, accepts_literal_iff, ih]
      simp only [List.cons_append, List.cons.injEq]
      tauto

theorem sectionsMatch_literals (cs ps : List Text) :
    sectionsMatch (literals cs) ps = true ↔ ps = cs ∨ ps = cs ++ [[]] := by
  rw [sectionsMatch, stretches_literals]
  exact stretchMatches_literals cs ps

/-- With two stars behind them, they match a path that goes on, with a segment that is not made of
dots at the least. -/
theorem sectionsMatch_literals_globstar (cs ps : List Text) :
    sectionsMatch (literals cs ++ [.globstar]) ps = true ↔
      ∃ rest, rest ≠ [] ∧ (∀ s ∈ rest, Segment.isDotName s = false) ∧ ps = cs ++ rest := by
  have hlength : (literals cs).length = cs.length := List.length_map _
  have hstars : sectionsMatch (literals cs ++ [.globstar]) ps = true ↔
      stretchMatches (literals cs) (ps.take cs.length) = true ∧
        (∀ s ∈ ps.drop cs.length, Segment.isDotName s = false) ∧ ps.drop cs.length ≠ [] := by
    rw [sectionsMatch, stretches_literals_globstar]
    have hrest : (ps.drop cs.length).take (ps.drop cs.length).length = ps.drop cs.length :=
      List.take_length
    simp [starsMatch, tailMatch?, hlength, -List.length_drop, hrest]
  rw [hstars, stretchMatches_literals]
  constructor
  · rintro ⟨hfront | hfront, hdots, hne⟩
    · refine ⟨ps.drop cs.length, hne, hdots, ?_⟩
      calc ps = ps.take cs.length ++ ps.drop cs.length := (List.take_append_drop _ _).symm
        _ = cs ++ ps.drop cs.length := by rw [hfront]
    · -- so many segments are not taken
      have hcount := congrArg List.length hfront
      simp at hcount
      omega
  · rintro ⟨rest, hne, hdots, rfl⟩
    rw [List.take_left, List.drop_left]
    exact ⟨.inl rfl, hdots, hne⟩

end Glob

namespace Pattern

/-- A pattern that is not longer than patterns may be, also when it is to match what lies below. -/
def Fits (text : Text) : Prop := (body (unmarked text)).unitLength + below.length ≤ maxLength

/-- A text that, as a pattern, spells what it selects: nothing in it is special, it does not
exclude, and it is short enough. -/
structure Literal (t : Text) : Prop where
  plain : Glob.isPlain t = true
  included : Check.isExclusion t = false
  fits : Fits t

/-- A text with slashes before and behind it. -/
def slashed (before : Nat) (t : Text) (behind : Nat) : Text :=
  List.replicate before '/' ++ t ++ List.replicate behind '/'

theorem unmarked_of_included {t : Text} (h : Check.isExclusion t = false) : unmarked t = t := by
  unfold unmarked
  split
  · simp [Check.isExclusion] at h
  · rfl

variable {ns ps : List FileName}

/-- There is nothing at the ends of a path that does not count. -/
theorem body_ofNames (hns : ns ≠ []) : body (Path.ofNames ns) = Path.ofNames ns := by
  have hstart : Text.dropStart '/' (Path.ofNames ns) = Path.ofNames ns := by
    obtain ⟨c, rest, h⟩ := List.exists_cons_of_ne_nil (Path.ofNames_ne_nil hns)
    have hc := Path.head?_ofNames hns
    rw [h] at hc ⊢
    exact List.dropWhile_cons_of_neg (by simpa using hc)
  have hend : Text.dropEnd '/' (Path.ofNames ns) = Path.ofNames ns := by
    have hlast := Path.getLast?_ofNames hns
    rw [← List.head?_reverse] at hlast
    obtain ⟨c, rest, h⟩ :=
      List.exists_cons_of_ne_nil (mt List.reverse_eq_nil_iff.1 (Path.ofNames_ne_nil hns))
    rw [h] at hlast
    rw [Text.dropEnd, h, List.dropWhile_cons_of_neg (by simpa using hlast), ← h,
      List.reverse_reverse]
  have hdot : Text.after? ['.', '/'] (Path.ofNames ns) = none := by
    cases hafter : Text.after? ['.', '/'] (Path.ofNames ns) with
    | none => rfl
    | some rest =>
      have hpath : Path.ofNames ns = ['.', '/'] ++ rest := Text.after?_eq_some hafter
      have hsplit : Text.splitOn '/' (['.', '/'] ++ rest) = ['.'] :: Text.splitOn '/' rest :=
        Text.splitOn_append '/' ['.'] rest
      rw [← hpath] at hsplit
      exact absurd (hsplit ▸ List.mem_cons_self)
        (Path.special_not_mem_splitOn hns (.inr (.inl rfl)))
  rw [body, hstart, hend, hdot]
  rfl

/-- Slashes at the ends of a pattern say nothing. -/
theorem body_slashed (before behind : Nat) (t : Text) :
    body (slashed before t behind) = body t := by
  have hstart : Text.dropStart '/' (slashed before t behind) =
      Text.dropStart '/' (t ++ List.replicate behind '/') := by
    rw [slashed, List.append_assoc]
    exact List.dropWhile_append_of_pos (by simp)
  have hend : Text.dropEnd '/' (Text.dropStart '/' (t ++ List.replicate behind '/')) =
      Text.dropEnd '/' (Text.dropStart '/' t) := by
    unfold Text.dropStart
    rw [List.dropWhile_append]
    split
    · next hempty =>
      -- nothing but slashes is left of the text
      rw [List.isEmpty_iff.1 hempty]
      simp
    · unfold Text.dropEnd
      rw [List.reverse_append, List.reverse_replicate, List.dropWhile_append_of_pos (by simp)]
  rw [body, body, hstart, hend]

theorem glob_of_read {t : Text} {g : Glob} (h : Glob.read t = .ok g) :
    glob t = if t.unitLength ≤ maxLength then .ok g else .error .patternTooLong := by
  unfold glob
  rw [h]
  split
  · next hlong => rw [if_neg (Nat.not_le.2 hlong)]
  · next hshort => rw [if_pos (Nat.not_lt.1 hshort)]; rfl

/-- What a plain path is read as, and what all that lies below it is read as. -/
def spelled (ns : List FileName) : Glob × Glob :=
  (⟨[Glob.literals (ns.map (·.text))]⟩, ⟨[Glob.literals (ns.map (·.text)) ++ [.globstar]]⟩)

/-- A pattern of which a plain path is left is read name by name, if it is short enough also when it
is to match what lies below. -/
theorem compile_of_body {t : Text} (hns : ns ≠ []) (hbody : body t = Path.ofNames ns)
    (hplain : Glob.isPlain (Path.ofNames ns) = true) (hmark : Check.isExclusion t = false) :
    compile t =
      if (Path.ofNames ns).unitLength + below.length ≤ maxLength then
        .ok ⟨t, false, some (spelled ns)⟩
      else .error .patternTooLong := by
  have hroot : ¬ (Path.ofNames ns = [] ∨ Path.ofNames ns = ['.']) := by
    rintro (hnil | hdot)
    · exact Path.ofNames_ne_nil hns hnil
    · refine Path.special_not_mem_splitOn hns (.inr (.inl rfl)) ?_
      rw [hdot]
      exact List.mem_singleton_self _
  have hunder : (Path.ofNames ns ++ below).unitLength =
      (Path.ofNames ns).unitLength + below.length := Text.unitLength_append _ _
  rw [compile_eq_ofSource, hmark, unmarked_of_included hmark, ofSource, hbody, if_neg hroot,
    glob_of_read (Glob.read_ofNames hplain hns), glob_of_read (Glob.read_ofNames_below hplain hns),
    hunder]
  by_cases hfits : (Path.ofNames ns).unitLength + below.length ≤ maxLength
  · rw [if_pos hfits, if_pos hfits, if_pos (Nat.le_of_add_right_le hfits)]
    rfl
  · rw [if_neg hfits, if_neg hfits]
    split <;> rfl

/-- Names that are compared as they stand match the path that they make and all below it. -/
theorem test_names_iff {p : Pattern} (hns : ns ≠ []) (hglobs : p.globs = some (spelled ns))
    (hps : ps ≠ []) :
    p.test (Path.ofNames ps) = true ↔
      Path.ofNames ps = Path.ofNames ns ∨ Path.ofNames ns ++ ['/'] <+: Path.ofNames ps := by
  rw [← Path.names_prefix_iff hns hps, test, hglobs]
  simp only [spelled, Glob.accepts, List.any_cons, List.any_nil, Bool.or_false, Bool.or_eq_true,
    Glob.sections_ofNames hps, Glob.sectionsMatch_literals, Glob.sectionsMatch_literals_globstar]
  constructor
  · rintro ((heq | heq) | ⟨rest, -, -, heq⟩)
    · exact heq ▸ List.prefix_rfl
    · exact heq ▸ List.prefix_append _ _
    · exact heq ▸ List.prefix_append _ _
  · rintro ⟨rest, hrest⟩
    by_cases hnil : rest = []
    · rw [hnil, List.append_nil] at hrest
      exact .inl (.inl hrest.symm)
    · refine .inr ⟨rest, hnil, ?_, hrest.symm⟩
      intro t ht
      have hmem : t ∈ ps.map (·.text) := hrest ▸ List.mem_append_right _ ht
      obtain ⟨n, -, rfl⟩ := List.mem_map.1 hmem
      simp [Glob.Segment.isDotName, n.ne_dot, n.ne_dots]

/-- A path that spells itself is read name by name. -/
theorem Literal.compile_eq (hns : ns ≠ []) (h : Literal (Path.ofNames ns)) :
    compile (Path.ofNames ns) = .ok ⟨Path.ofNames ns, false, some (spelled ns)⟩ := by
  have hfits := h.fits
  rw [Fits, unmarked_of_included h.included, body_ofNames hns] at hfits
  rw [compile_of_body hns (body_ofNames hns) h.plain h.included, if_pos hfits]

/-- A path, read as a pattern that spells it, matches this path and all that lies below it. -/
theorem matches_ofNames_iff (hns : ns ≠ []) (h : Literal (Path.ofNames ns)) (hps : ps ≠ []) :
    Matches (Path.ofNames ns) (Path.ofNames ps) ↔
      Path.ofNames ps = Path.ofNames ns ∨ Path.ofNames ns ++ ['/'] <+: Path.ofNames ps := by
  rw [matches_iff (h.compile_eq hns)]
  exact test_names_iff hns rfl hps

/-- A path without anything special in it, with any number of slashes around it, is a pattern that
matches this path and all that lies below it, and no other path of a tree. -/
theorem test_slashed_iff (hns : ns ≠ []) (hplain : Glob.isPlain (Path.ofNames ns) = true)
    (hmark : (Path.ofNames ns).head? ≠ some '!')
    (hfits : (Path.ofNames ns).unitLength + below.length ≤ maxLength) (before behind : Nat) :
    ∃ p, compile (slashed before (Path.ofNames ns) behind) = .ok p ∧
      ∀ ps : List FileName, ps ≠ [] →
        (p.test (Path.ofNames ps) = true ↔
          Path.ofNames ps = Path.ofNames ns ∨ Path.ofNames ns ++ ['/'] <+: Path.ofNames ps) := by
  have hbody : body (slashed before (Path.ofNames ns) behind) = Path.ofNames ns := by
    rw [body_slashed, body_ofNames hns]
  have hincluded : Check.isExclusion (slashed before (Path.ofNames ns) behind) = false := by
    obtain ⟨c, rest, hpath⟩ := List.exists_cons_of_ne_nil (Path.ofNames_ne_nil hns)
    rw [hpath] at hmark ⊢
    cases before with
    | zero => simpa [Check.isExclusion, slashed] using hmark
    | succ before => simp [Check.isExclusion, slashed, List.replicate_succ]
  refine ⟨_, (compile_of_body hns hbody hplain hincluded).trans (if_pos hfits), ?_⟩
  intro ps hps
  exact test_names_iff hns rfl hps

/-- A directory whose name ends in a plus sign. -/
def plusDirectory : FileName := ⟨"lib+".toList, by decide, by decide, by decide, by decide⟩

/-- A name with an exclamation mark in it. -/
def markedName : FileName := ⟨"v!2".toList, by decide, by decide, by decide, by decide⟩

/-- A longer name that starts in the same way. -/
def longerName : FileName := ⟨"v!20".toList, by decide, by decide, by decide, by decide⟩

/-- A name in which much is special. -/
def starredName : FileName := ⟨"*[b].{c}".toList, by decide, by decide, by decide, by decide⟩

theorem test_slashed_iff_marked :
    Glob.isPlain (Path.ofNames [plusDirectory, markedName]) = true ∧
      ∃ p, compile "//lib+/v!2///".toList = .ok p ∧ p.test "lib+/v!2/*[b].{c}".toList = true ∧
        p.test "lib+/v!20/*[b].{c}".toList = false := by
  have hplain : Glob.isPlain (Path.ofNames [plusDirectory, markedName]) = true :=
    Glob.isPlain_of_all (by decide)
  obtain ⟨p, hp, htest⟩ := test_slashed_iff (by simp) hplain (by decide) (by decide) 2 3
  refine ⟨hplain, p, hp, ?_, ?_⟩
  · exact (htest [plusDirectory, markedName, starredName] (by simp)).2 (by decide)
  · have hlonger := htest [plusDirectory, longerName, starredName] (by simp)
    exact Bool.eq_false_iff.2 fun h => absurd (hlonger.1 h) (by decide)

end Pattern

end Lockstep
