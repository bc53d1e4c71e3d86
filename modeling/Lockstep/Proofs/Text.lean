import Mathlib.Data.List.TakeDrop
import Mathlib.Data.List.TakeWhile
import Lockstep.Text.Blank
import Lockstep.Text.Lines

/-!
# Putting texts together and taking them apart

The readers of the library cut texts; what renders a block or a diff puts them
together.  Here are the laws between the two: what stands before and behind a
separator, what trimming leaves alone, and which lines a text has that is made of
lines (`Text.lines_unlines`).
-/

namespace Lockstep

/-- Blanks on one line. -/
structure Blanks where
  text : Text
  blank : ∀ c ∈ text, Text.isBlank c = true
  line : '\n' ∉ text

/-- What can end a line. -/
inductive LineEnd where
  | feed
  | returnFeed
  deriving DecidableEq, Repr

/-- The end of a line as written. -/
def LineEnd.text : LineEnd → Text
  | feed => ['\n']
  | returnFeed => ['\r', '\n']

namespace Text

/-! ## Starts and separators -/

@[simp] theorem after?_append (start t : Text) : after? start (start ++ t) = some t := by
  induction start with
  | nil => rfl
  | cons s start ih => rw [List.cons_append, after?, if_pos rfl, ih]

theorem after?_eq_some {start t rest : Text} (h : after? start t = some rest) :
    t = start ++ rest := by
  induction start generalizing t with
  | nil => cases h; rfl
  | cons s start ih =>
    cases t with
    | nil => cases h
    | cons c t =>
      rw [after?] at h
      split at h
      · next hc => rw [hc, ih h, List.cons_append]
      · cases h

theorem after?_eq_none_iff {word t : Text} : after? word t = none ↔ ¬ word <+: t := by
  constructor
  · rintro hnone ⟨rest, rfl⟩
    rw [after?_append] at hnone
    cases hnone
  · intro hstart
    cases hafter : after? word t with
    | none => rfl
    | some rest => exact absurd ⟨rest, (after?_eq_some hafter).symm⟩ hstart

theorem cutAt?_append {sep : Char} {t : Text} (h : sep ∉ t) (rest : Text) :
    cutAt? sep (t ++ sep :: rest) = some (t, rest) := by
  induction t with
  | nil => simp [cutAt?]
  | cons c t ih =>
    rw [List.mem_cons, not_or] at h
    rw [List.cons_append, cutAt?, if_neg (Ne.symm h.1), ih h.2]
    rfl

theorem cutAt?_eq_none {sep : Char} {t : Text} (h : sep ∉ t) : cutAt? sep t = none := by
  induction t with
  | nil => rfl
  | cons c t ih =>
    rw [List.mem_cons, not_or] at h
    rw [cutAt?, if_neg (Ne.symm h.1), ih h.2]
    rfl

/-- A run of characters of one kind ends before the first character that is not of this kind. -/
theorem span_append {p : Char → Bool} {run rest : Text} (hrun : ∀ c ∈ run, p c = true)
    (hrest : ∀ c ∈ rest.head?, p c = false) : (run ++ rest).span p = (run, rest) := by
  rw [List.span_eq_takeWhile_dropWhile, List.takeWhile_append_of_pos hrun,
    List.dropWhile_append_of_pos hrun]
  cases rest with
  | nil => simp
  | cons c rest => simp [hrest c rfl]

/-! ## Words inside a text -/

theorem cutAtWord?_append (word rest : Text) (h : word ≠ []) :
    cutAtWord? word (word ++ rest) = some ([], rest) := by
  obtain ⟨c, word, rfl⟩ := List.exists_cons_of_ne_nil h
  have hafter := after?_append (c :: word) rest
  rw [List.cons_append] at hafter ⊢
  simp only [cutAtWord?, hafter]

theorem cutAtWord?_eq_none {word t : Text} (h : includes word t = false) :
    cutAtWord? word t = none := by
  simpa [includes] using h

/-- A text includes a word that is a part of it. -/
theorem includes_iff {word t : Text} : includes word t = true ↔ word <:+: t := by
  induction t with
  | nil => cases word <;> simp [includes, cutAtWord?]
  | cons c t ih =>
    rw [includes, cutAtWord?, List.infix_cons_iff, ← ih]
    cases hafter : after? word (c :: t) with
    | some rest =>
      have hstart : word <+: c :: t := ⟨rest, (after?_eq_some hafter).symm⟩
      simp [hstart]
    | none => simp [after?_eq_none_iff.1 hafter, includes]

/-- A text without a word has no part with this word. -/
theorem includes_part {word part t : Text} (hpart : part <:+: t) (h : includes word t = false) :
    includes word part = false := by
  rw [← Bool.not_eq_true, includes_iff] at h ⊢
  exact fun hword => h (hword.trans hpart)

theorem after?_eq_none {word t : Text} (h : includes word t = false) (hne : word ≠ []) :
    after? word t = none := by
  cases hafter : after? word t with
  | none => rfl
  | some rest =>
    rw [after?_eq_some hafter, includes, cutAtWord?_append word rest hne] at h
    cases h

/-- The part of a text in front of the last character of a word in it. -/
theorem prefix_cut (word before behind : Text) :
    before ++ word.dropLast <+: before ++ (word ++ behind) :=
  (List.prefix_append_right_inj before).2
    ((List.dropLast_prefix word).trans (List.prefix_append word behind))

/-- A text is cut at the first occurrence of a word: the word does not end any earlier. -/
theorem eq_append_of_cutAtWord? {word t before behind : Text} (hne : word ≠ [])
    (h : cutAtWord? word t = some (before, behind)) :
    t = before ++ (word ++ behind) ∧ ¬ word <:+: before ++ word.dropLast := by
  induction t generalizing before with
  | nil => simp [cutAtWord?, hne] at h
  | cons c t ih =>
    rw [cutAtWord?] at h
    cases hafter : after? word (c :: t) with
    | some rest =>
      rw [hafter] at h
      cases h
      have ht : c :: t = word ++ behind := after?_eq_some hafter
      refine ⟨ht, fun hin => ?_⟩
      have hlength := hin.length_le
      rw [List.nil_append, List.length_dropLast] at hlength
      have hpos := List.length_pos_iff.2 hne
      omega
    | none =>
      rw [hafter] at h
      obtain ⟨⟨front, rest⟩, hcut, heq⟩ := Option.map_eq_some_iff.1 h
      cases heq
      obtain ⟨ht, hfirst⟩ := ih hcut
      refine ⟨by rw [ht, List.cons_append], fun hin => ?_⟩
      rw [List.cons_append, List.infix_cons_iff] at hin
      rcases hin with hstart | hin
      · rw [after?_eq_none_iff, ht] at hafter
        exact hafter (hstart.trans (prefix_cut word (c :: front) behind))
      · exact hfirst hin

theorem cutAtWord?_of_first {word before : Text} (hne : word ≠ [])
    (h : ¬ word <:+: before ++ word.dropLast) (behind : Text) :
    cutAtWord? word (before ++ (word ++ behind)) = some (before, behind) := by
  induction before with
  | nil => exact cutAtWord?_append word behind hne
  | cons c t ih =>
    have hafter : after? word (c :: (t ++ (word ++ behind))) = none := by
      rw [after?_eq_none_iff]
      intro hstart
      -- a word that starts here ends in front of the last character of the word behind
      have hlength : word.length ≤ (c :: t ++ word.dropLast).length := by
        simp only [List.length_append, List.length_cons, List.length_dropLast]
        omega
      exact h (List.prefix_of_prefix_length_le hstart
        (prefix_cut word (c :: t) behind) hlength).isInfix
    have htail : ¬ word <:+: t ++ word.dropLast := fun hin => h (List.infix_cons hin)
    rw [List.cons_append, cutAtWord?, hafter, ih htail]
    rfl

/-! ## Trimming -/

/-- A text without blanks. -/
def Solid (t : Text) : Prop := ∀ c ∈ t, isBlank c = false

instance (t : Text) : Decidable (Solid t) := List.decidableBAll (fun c => isBlank c = false) t

theorem isBlank_of_isAlphanum {c : Char} (h : c.isAlphanum = true) : isBlank c = false := by
  have hn : 48 ≤ c.toNat ∧ c.toNat ≤ 122 := by
    replace h : (decide (c.val ≥ 'A'.val ∧ c.val ≤ 'Z'.val) ||
      (c.val ≥ 'a'.val && c.val ≤ 'z'.val) ||
      (c.val ≥ '0'.val && c.val ≤ '9'.val)) = true := h
    simp only [Bool.or_eq_true, Bool.and_eq_true, decide_eq_true_eq, ge_iff_le,
      UInt32.le_iff_toNat_le, Char.reduceToNat, Char.toNat_val] at h
    omega
  simp only [isBlank, Bool.or_eq_false_iff, Bool.and_eq_false_iff, decide_eq_false_iff_not,
    beq_eq_false_iff_ne]
  omega

/-- A blank is no capital letter. -/
theorem toLower_of_isBlank {c : Char} (h : isBlank c = true) : c.toLower = c := by
  refine dif_neg fun hcapital => ?_
  have hupper : c.isUpper = true := decide_eq_true hcapital
  have halphanum : c.isAlphanum = true := by
    show (c.isUpper || c.isLower || c.isDigit) = true
    rw [hupper]
    rfl
  rw [isBlank_of_isAlphanum halphanum] at h
  cases h

theorem trimStart_cons {c : Char} (h : isBlank c = false) (t : Text) :
    trimStart (c :: t) = c :: t := by
  rw [trimStart, List.dropWhile_cons, h]
  rfl

theorem not_mem_blanks {blanks : Text} (h : ∀ d ∈ blanks, isBlank d = true) {c : Char}
    (hc : isBlank c = false) : c ∉ blanks := by
  intro hmem
  rw [h c hmem] at hc
  cases hc

theorem trimStart_append {blanks : Text} (h : ∀ c ∈ blanks, isBlank c = true) (t : Text) :
    trimStart (blanks ++ t) = trimStart t := by
  rw [trimStart, List.dropWhile_append_of_pos h]
  rfl

theorem Solid.trimStart {t : Text} (h : Solid t) : trimStart t = t := by
  cases t with
  | nil => rfl
  | cons c t => exact trimStart_cons (h c List.mem_cons_self) t

theorem Solid.trimEnd {t : Text} (h : Solid t) : trimEnd t = t := by
  have hrev : Solid t.reverse := fun c hc => h c (List.mem_reverse.1 hc)
  rw [Text.trimEnd, ← Text.trimStart, hrev.trimStart, List.reverse_reverse]

theorem Solid.trim {t : Text} (h : Solid t) : trim t = t := by
  rw [Text.trim, h.trimStart, h.trimEnd]

theorem trimStart_of_trim {t : Text} (h : trim t = t) : trimStart t = t := by
  have hend : trimEnd (trimStart t) <+: trimStart t := by
    rw [Text.trimEnd, ← List.reverse_suffix, List.reverse_reverse]
    exact List.dropWhile_suffix _
  have hlength := hend.length_le
  rw [← Text.trim, h] at hlength
  exact (List.dropWhile_suffix _).eq_of_length_le hlength

theorem trimEnd_of_trim {t : Text} (h : trim t = t) : trimEnd t = t := by
  rw [trim, trimStart_of_trim h] at h
  exact h

theorem not_blank_of_trimStart {c : Char} {t : Text} (h : trimStart (c :: t) = c :: t) :
    isBlank c = false := by
  cases hc : isBlank c with
  | false => rfl
  | true =>
    have hlength := (List.dropWhile_suffix (l := t) isBlank).length_le
    rw [trimStart, List.dropWhile_cons, if_pos hc] at h
    rw [h, List.length_cons] at hlength
    omega

/-- A text that ends in no blank does so from any place on. -/
theorem trimEnd_of_suffix {s t : Text} (hsuffix : s <:+ t) (ht : trimEnd t = t) :
    trimEnd s = s := by
  obtain ⟨start, hstart⟩ := List.reverse_prefix.2 hsuffix
  have hrev : trimStart t.reverse = t.reverse := by
    rw [← List.reverse_inj, List.reverse_reverse]
    exact ht
  rw [trimEnd, ← trimStart]
  cases hs : s.reverse with
  | nil => rw [List.reverse_eq_nil_iff.1 hs]; rfl
  | cons c u =>
    rw [hs, List.cons_append] at hstart
    rw [← hstart] at hrev
    rw [trimStart_cons (not_blank_of_trimStart hrev), ← hs, List.reverse_reverse]

theorem trimStart_ne_nil {t : Text} (hne : t ≠ []) (hend : trimEnd t = t) : trimStart t ≠ [] := by
  intro hnil
  have hblank : ∀ c ∈ t, isBlank c = true := List.dropWhile_eq_nil_iff.1 hnil
  have hrev : t.reverse.dropWhile isBlank = [] :=
    List.dropWhile_eq_nil_iff.2 fun c hc => hblank c (List.mem_reverse.1 hc)
  rw [trimEnd, hrev] at hend
  exact hne hend.symm

theorem trimEnd_append {blanks : Text} (h : ∀ c ∈ blanks, isBlank c = true) (t : Text) :
    trimEnd (t ++ blanks) = trimEnd t := by
  have hrev : ∀ c ∈ blanks.reverse, isBlank c = true := fun c hc => h c (List.mem_reverse.1 hc)
  rw [trimEnd, List.reverse_append, List.dropWhile_append_of_pos hrev]
  rfl

theorem trim_append {blanks : Text} (h : ∀ c ∈ blanks, isBlank c = true) (t : Text) :
    trim (t ++ blanks) = trim t := by
  rw [trim, trim, trimStart, trimStart, List.dropWhile_append]
  split
  · next hall =>
    have hnil : t.dropWhile isBlank = [] := by simpa using hall
    rw [hnil, List.dropWhile_eq_nil_iff.2 h]
  · exact trimEnd_append h _

theorem trim_between (before behind : Blanks) (t : Text) :
    trim (before.text ++ (t ++ behind.text)) = trim t := by
  rw [trim, trimStart_append before.blank, ← trim, trim_append behind.blank]

theorem trimEnd_concat {c : Char} (h : isBlank c = false) (t : Text) :
    trimEnd (t ++ [c]) = t ++ [c] := by
  rw [trimEnd, List.reverse_concat, List.dropWhile_cons, h]
  simp

/-- A text in which no blank but the space stands, so that it fits on a line. -/
def Spaced (t : Text) : Prop := ∀ c ∈ t, isBlank c = true → c = ' '

instance (t : Text) : Decidable (Spaced t) :=
  List.decidableBAll (fun c => isBlank c = true → c = ' ') t

theorem Solid.spaced {t : Text} (h : Solid t) : Spaced t := by
  intro c hc hblank
  rw [h c hc] at hblank
  cases hblank

theorem Spaced.append {a b : Text} (ha : Spaced a) (hb : Spaced b) : Spaced (a ++ b) := by
  intro c hc
  rcases List.mem_append.1 hc with hc | hc
  · exact ha c hc
  · exact hb c hc

theorem Spaced.not_mem {t : Text} (h : Spaced t) {c : Char} (hblank : isBlank c = true)
    (hc : c ≠ ' ') : c ∉ t :=
  fun hmem => hc (h c hmem hblank)

/-! ## Lines -/

/-- The empty text fits on a line. -/
theorem feed_not_mem_nil : '\n' ∉ ([] : Text) := List.not_mem_nil

/-- The text made of some lines, a line feed behind each. -/
def unlines (ls : List Text) : Text := ls.flatMap (· ++ ['\n'])

/-- The line without a carriage return at its end. -/
def dropReturn : Text → Text
  | [] => []
  | [c] => if c = '\r' then [] else [c]
  | c :: d :: line => c :: dropReturn (d :: line)

theorem dropReturn_cons {c : Char} (h : c ≠ '\r') (line : Text) :
    dropReturn (c :: line) = c :: dropReturn line := by
  cases line with
  | nil => simp [dropReturn, h]
  | cons d line => rfl

theorem dropReturn_append {start : Text} (h : '\r' ∉ start) (line : Text) :
    dropReturn (start ++ line) = start ++ dropReturn line := by
  induction start with
  | nil => rfl
  | cons c start ih =>
    rw [List.mem_cons, not_or] at h
    rw [List.cons_append, dropReturn_cons (Ne.symm h.1), ih h.2, List.cons_append]

theorem dropReturn_eq_self {line : Text} (h : '\r' ∉ line) : dropReturn line = line := by
  have := dropReturn_append h []
  simpa [dropReturn] using this

theorem dropReturn_of_getLast? {line : Text} (h : line.getLast? ≠ some '\r') :
    dropReturn line = line := by
  fun_induction dropReturn line with
  | case1 => rfl
  | case2 => exact absurd rfl h
  | case3 => rfl
  | case4 c d line ih =>
    rw [List.getLast?_cons_cons] at h
    rw [ih h]

theorem dropReturn_append_of_ne_nil {line : Text} (h : line ≠ []) (start : Text) :
    dropReturn (start ++ line) = start ++ dropReturn line := by
  induction start with
  | nil => rfl
  | cons c start ih =>
    obtain ⟨d, rest, hrest⟩ :=
      List.exists_cons_of_ne_nil (List.append_ne_nil_of_right_ne_nil start h)
    rw [hrest] at ih
    rw [List.cons_append, hrest, dropReturn, ih]
    rfl

theorem dropReturn_concat (line : Text) : dropReturn (line ++ ['\r']) = line := by
  rw [dropReturn_append_of_ne_nil (List.cons_ne_nil _ _)]
  exact List.append_nil _

theorem dropReturn_prefix (line : Text) : dropReturn line <+: line := by
  fun_induction dropReturn line with
  | case1 => exact List.prefix_rfl
  | case2 => exact List.nil_prefix
  | case3 => exact List.prefix_rfl
  | case4 c d line ih => exact (List.cons_prefix_cons).2 ⟨rfl, ih⟩

theorem lines_cons {c : Char} {t : Text} (hfeed : c ≠ '\n')
    (hreturn : ¬ (c = '\r' ∧ t.head? = some '\n')) : lines (c :: t) = consHead c (lines t) := by
  rw [lines.eq_def]
  split
  · next h => cases h
  · next rest h =>
    cases h
    exact absurd rfl hfeed
  · next rest h =>
    cases h
    exact absurd ⟨rfl, rfl⟩ hreturn
  · next h =>
    cases h
    rfl

/-- The first line of a text ends at the first line feed, and a carriage return before that is not
part of it. -/
theorem lines_append {line : Text} (h : '\n' ∉ line) (rest : Text) :
    lines (line ++ '\n' :: rest) = dropReturn line :: lines rest := by
  fun_induction dropReturn line with
  | case1 => rw [List.nil_append, lines]
  | case2 => rw [List.cons_append, List.nil_append, lines]
  | case3 c hc =>
    have hfeed : c ≠ '\n' := fun heq => h (by simp [heq])
    rw [List.cons_append, List.nil_append, lines_cons hfeed (fun hboth => hc hboth.1), lines,
      consHead]
  | case4 c d line ih =>
    simp only [List.mem_cons, not_or] at h
    have hrest : '\n' ∉ d :: line := by simp [h.2.1, h.2.2]
    have hnext : ¬ (c = '\r' ∧ (d :: line ++ '\n' :: rest).head? = some '\n') := by
      rintro ⟨-, hd⟩
      exact h.2.1 (by simpa using hd.symm)
    rw [List.cons_append, lines_cons (Ne.symm h.1) hnext, ih hrest, consHead]

theorem lines_eq_singleton {line : Text} (h : '\n' ∉ line) : lines line = [line] := by
  induction line with
  | nil => rfl
  | cons c line ih =>
    rw [List.mem_cons, not_or] at h
    have hnext : ¬ (c = '\r' ∧ line.head? = some '\n') :=
      fun hboth => h.2 (List.mem_of_head? hboth.2)
    rw [lines_cons (Ne.symm h.1) hnext, ih h.2]
    rfl

theorem unlines_cons (l : Text) (ls : List Text) : unlines (l :: ls) = l ++ '\n' :: unlines ls := by
  simp [unlines]

/-- There are as many line feeds as lines in a text made of lines. -/
theorem count_unlines {ls : List Text} (h : ∀ l ∈ ls, '\n' ∉ l) :
    (unlines ls).count '\n' = ls.length := by
  induction ls with
  | nil => rfl
  | cons l ls ih =>
    have hl : List.count '\n' l = 0 := List.count_eq_zero_of_not_mem (h l List.mem_cons_self)
    rw [unlines_cons, List.count_append, List.count_cons_self, hl,
      ih fun l' hl' => h l' (List.mem_cons_of_mem _ hl'), Nat.zero_add, List.length_cons]

/-- The lines of a text made of lines are these lines, and an empty one at the end. -/
theorem lines_unlines {ls : List Text} (h : ∀ l ∈ ls, '\n' ∉ l) :
    lines (unlines ls) = ls.map dropReturn ++ [[]] := by
  induction ls with
  | nil => rfl
  | cons l ls ih =>
    have ih := ih fun l' hl' => h l' (List.mem_cons_of_mem _ hl')
    rw [unlines_cons, lines_append (h l List.mem_cons_self), ih, List.map_cons, List.cons_append]

/-- A file made of lines has these lines. -/
theorem fileLines_unlines {ls : List Text} (h : ∀ l ∈ ls, '\n' ∉ l) :
    fileLines (unlines ls) = ls.map dropReturn := by
  rw [fileLines, lines_unlines h, dropEmptyLast, List.getLast?_concat, if_pos rfl,
    List.dropLast_concat]

/-! ## From the middle of a line on -/

/-- The rest of the line in which a text starts. -/
def firstLine (t : Text) : Text := (lines t).headD []

/-- The lines of a file behind the line in which the text starts. -/
def laterLines (t : Text) : List Text := dropEmptyLast (lines t).tail

theorem lines_ne_nil (t : Text) : lines t ≠ [] := by
  fun_induction lines t with
  | case1 => exact List.cons_ne_nil _ _
  | case2 => exact List.cons_ne_nil _ _
  | case3 => exact List.cons_ne_nil _ _
  | case4 c rest =>
    cases lines rest with
    | nil => exact List.cons_ne_nil _ _
    | cons => exact List.cons_ne_nil _ _

theorem lines_eq (t : Text) : lines t = firstLine t :: (lines t).tail := by
  rw [firstLine]
  cases h : lines t with
  | nil => exact absurd h (lines_ne_nil t)
  | cons line ls => rfl

theorem dropEmptyLast_cons {line : Text} {ls : List Text} (h : line ≠ [] ∨ ls ≠ []) :
    dropEmptyLast (line :: ls) = line :: dropEmptyLast ls := by
  cases ls with
  | nil =>
    have hline : line ≠ [] := by simpa using h
    simp [dropEmptyLast, hline]
  | cons next ls =>
    rw [dropEmptyLast, dropEmptyLast, List.getLast?_cons_cons, List.dropLast_cons_cons]
    split
    · rfl
    · rfl

theorem fileLines_append {line : Text} (h : '\n' ∉ line) (rest : Text) :
    fileLines (line ++ '\n' :: rest) = dropReturn line :: fileLines rest := by
  rw [fileLines, lines_append h, dropEmptyLast_cons (.inr (lines_ne_nil rest)), fileLines]

@[simp] theorem firstLine_feed (t : Text) : firstLine ('\n' :: t) = [] := by
  rw [firstLine, lines]
  rfl

@[simp] theorem laterLines_feed (t : Text) : laterLines ('\n' :: t) = fileLines t := by
  rw [laterLines, lines]
  rfl

theorem laterLines_append_feed {line : Text} (h : '\n' ∉ line) (rest : Text) :
    laterLines (line ++ '\n' :: rest) = fileLines rest := by
  rw [laterLines, lines_append h]
  rfl

/-- A text that does not end in a carriage return stays on the line it is put before. -/
theorem lines_start {start : Text} (hfeed : '\n' ∉ start) (hreturn : start.getLast? ≠ some '\r')
    (t : Text) : lines (start ++ t) = (start ++ firstLine t) :: (lines t).tail := by
  induction start with
  | nil => exact lines_eq t
  | cons c start ih =>
    rw [List.mem_cons, not_or] at hfeed
    have hstart : lines (start ++ t) = (start ++ firstLine t) :: (lines t).tail := by
      refine ih hfeed.2 fun hlast => hreturn ?_
      rw [List.getLast?_cons, hlast]
      rfl
    have hnext : ¬ (c = '\r' ∧ (start ++ t).head? = some '\n') := by
      rintro ⟨rfl, hhead⟩
      cases start with
      | nil => exact hreturn rfl
      | cons d start => exact hfeed.2 (by simpa using Or.inl hhead.symm)
    rw [List.cons_append, lines_cons (Ne.symm hfeed.1) hnext, hstart]
    rfl

theorem firstLine_append {start : Text} (hfeed : '\n' ∉ start)
    (hreturn : start.getLast? ≠ some '\r') (t : Text) :
    firstLine (start ++ t) = start ++ firstLine t := by
  rw [firstLine, lines_start hfeed hreturn]
  rfl

theorem laterLines_append {start : Text} (hfeed : '\n' ∉ start)
    (hreturn : start.getLast? ≠ some '\r') (t : Text) : laterLines (start ++ t) = laterLines t := by
  rw [laterLines, lines_start hfeed hreturn]
  rfl

/-- The lines of a file that starts with some text on its first line. -/
theorem fileLines_start {start : Text} (hne : start ≠ []) (hfeed : '\n' ∉ start)
    (hreturn : start.getLast? ≠ some '\r') (t : Text) :
    fileLines (start ++ t) = (start ++ firstLine t) :: laterLines t := by
  have hline : start ++ firstLine t ≠ [] := by simp [hne]
  rw [fileLines, lines_start hfeed hreturn, dropEmptyLast_cons (.inl hline), laterLines]

/-- A character stays on the line it is put before, unless it is the carriage return of an end. -/
theorem lines_cons_cases {c : Char} (h : c ≠ '\n') (t : Text) :
    lines (c :: t) = (c :: firstLine t) :: (lines t).tail ∨
      firstLine t = [] ∧ lines (c :: t) = lines t := by
  by_cases hreturn : c = '\r' ∧ t.head? = some '\n'
  · obtain ⟨rfl, hhead⟩ := hreturn
    cases t with
    | nil => cases hhead
    | cons d t =>
      rw [List.head?_cons, Option.some.injEq] at hhead
      rw [hhead]
      exact .inr ⟨firstLine_feed t, by rw [lines, lines]⟩
  · left
    rw [lines_cons h hreturn, lines_eq t]
    rfl

end Text

end Lockstep
