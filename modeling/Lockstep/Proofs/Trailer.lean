import Mathlib.Data.List.Chain
import Lockstep.Git.Trailer
import Lockstep.Proofs.Path
import Lockstep.Proofs.Text

/-!
# Written trailers

The trailers of a commit message as somebody writes them: the key in upper or lower case,
a list with blanks and empty entries in it, maybe a reason behind two dashes, other
trailers and remarks between, and ends of both kinds.  This file shows that exactly the
patterns that were written are exempt (`Git.Trailers.exemptions_text`).

* `Git.Exemption`, `Git.TrailerLine`, `Git.Trailers`: what can be written.
* `Git.Dashless`: no two dashes side by side, so that a list does not end before its reason.
* `Git.Exemption.patternsOfValue_text`: what stands behind the colon gives the patterns.
* `Git.patternsOfLine_return`: a carriage return at the end of a line says nothing.
* `Git.TrailerLine.exemptions_append`: one line, whatever follows it.
-/

namespace Lockstep

/-- Blanks at the end of a text do not show in its trimmed pieces. -/
theorem Text.map_trim_splitOn_append {sep : Char} {blanks : Text}
    (hblank : ∀ c ∈ blanks, isBlank c = true) (hsep : sep ∉ blanks) (t : Text) :
    (splitOn sep (t ++ blanks)).map trim = (splitOn sep t).map trim := by
  obtain ⟨front, last, ht, happend⟩ := exists_splitOn_append sep t
  rw [ht, happend blanks hsep, List.map_append, List.map_append, List.map_singleton,
    List.map_singleton, trim_append hblank]

namespace Git

/-! ## What can be written -/

/-- A pattern that can be written in a trailer. -/
structure ExemptPattern where
  text : Text
  trimmed : text.trim = text
  ne_nil : text ≠ []
  no_comma : ',' ∉ text
  no_dashes : Text.includes ['-', '-'] text = false
  line : '\n' ∉ text

/-- What stands between two commas: a pattern or none, and blanks around it. -/
structure ExemptEntry where
  before : Blanks
  pattern : Option ExemptPattern
  behind : Blanks

namespace ExemptEntry

/-- The pattern as written, if there is one. -/
def patternText (e : ExemptEntry) : Text := (e.pattern.map (·.text)).getD []

/-- The entry as written. -/
def text (e : ExemptEntry) : Text := e.before.text ++ (e.patternText ++ e.behind.text)

end ExemptEntry

/-- A trailer that exempts files.  Its key may be written in any mixture of upper and lower case; no
character but a letter from A to Z has a letter of the key as its small one. -/
structure Exemption where
  before : Blanks
  key : Text
  key_eq : key.map Char.toLower = exemptionKey
  behind : Blanks
  entries : List ExemptEntry
  /-- Why the files are exempt. -/
  reason : Option Text
  reason_line : ∀ t ∈ reason, '\n' ∉ t

namespace Exemption

/-- The key as written. -/
def keyText (e : Exemption) : Text := e.before.text ++ (e.key ++ e.behind.text)

/-- Entries as written. -/
def listText (entries : List ExemptEntry) : Text := [','].intercalate (entries.map (·.text))

/-- The reason as written, behind two dashes. -/
def reasonText (e : Exemption) : Text := (e.reason.map fun t => ' ' :: '-' :: '-' :: t).getD []

/-- The trailer as written. -/
def text (e : Exemption) : Text := e.keyText ++ ':' :: (listText e.entries ++ e.reasonText)

/-- The patterns that are meant. -/
def patterns (e : Exemption) : List Text :=
  e.entries.filterMap fun entry => entry.pattern.map (·.text)

end Exemption

/-- A line of trailers. -/
inductive TrailerLine where
  /-- Text without a colon. -/
  | remark (text : Text) (no_colon : ':' ∉ text) (line : '\n' ∉ text)
  /-- A trailer with another key. -/
  | other (key value : Text) (no_colon : ':' ∉ key)
      (key_ne : key.trim.map Char.toLower ≠ exemptionKey)
      (line : '\n' ∉ key ++ value)
  /-- A trailer that exempts files. -/
  | exemption (e : Exemption)

namespace TrailerLine

/-- The line as written. -/
def text : TrailerLine → Text
  | remark text .. => text
  | other key value .. => key ++ ':' :: value
  | exemption e => e.text

/-- The patterns that are meant. -/
def patterns : TrailerLine → List Text
  | exemption e => e.patterns
  | _ => []

end TrailerLine

/-- The trailers of a message: lines with an end behind each, and a last line without one. -/
structure Trailers where
  ended : List (TrailerLine × LineEnd)
  last : TrailerLine

namespace Trailers

/-- The trailers as written. -/
def text (t : Trailers) : Text := t.ended.flatMap (fun l => l.1.text ++ l.2.text) ++ t.last.text

/-- The patterns that are meant, in order. -/
def patterns (t : Trailers) : List Text := t.ended.flatMap (·.1.patterns) ++ t.last.patterns

end Trailers

/-! ## Dashes -/

/-- A text in which no two dashes stand side by side. -/
def Dashless (t : Text) : Prop := t.IsChain fun a b => ¬ (a = '-' ∧ b = '-')

theorem dashless_iff {t : Text} : Dashless t ↔ ¬ ['-', '-'] <:+: t := by
  rw [Dashless, List.isChain_iff_forall_rel_of_append_cons_cons]
  constructor
  · rintro h ⟨before, behind, rfl⟩
    exact h (List.append_assoc _ _ _) ⟨rfl, rfl⟩
  · rintro h a b before behind rfl ⟨rfl, rfl⟩
    exact h ⟨before, behind, List.append_assoc _ _ _⟩

theorem dashless_of_not_mem {t : Text} (h : '-' ∉ t) : Dashless t :=
  dashless_iff.2 fun hdashes => h (hdashes.subset List.mem_cons_self)

theorem Dashless.append {a b : Text} (ha : Dashless a) (hb : Dashless b)
    (h : '-' ∉ a.getLast? ∨ '-' ∉ b.head?) : Dashless (a ++ b) := by
  apply List.isChain_append.2
  refine ⟨ha, hb, ?_⟩
  rintro x hx y hy ⟨rfl, rfl⟩
  rcases h with h | h
  · exact h hx
  · exact h hy

/-- A value without two dashes is all list. -/
theorem cutAtWord?_dashes_eq_none_iff {t : Text} :
    Text.cutAtWord? ['-', '-'] t = none ↔ Dashless t := by
  rw [dashless_iff, ← Text.includes_iff, Text.includes, Bool.not_eq_true,
    Option.isSome_eq_false_iff, Option.isNone_iff_eq_none]

/-! ## Entries -/

namespace ExemptEntry

variable (e : ExemptEntry)

/-- What holds of nothing and of every pattern holds of an entry without its blanks. -/
theorem patternText_of {P : Text → Prop} (hnil : P []) (hpattern : ∀ p : ExemptPattern, P p.text) :
    P e.patternText := by
  rw [patternText]
  cases e.pattern with
  | none => exact hnil
  | some p => exact hpattern p

theorem trim_text : e.text.trim = e.patternText := by
  have hpattern : e.patternText.trim = e.patternText :=
    e.patternText_of (P := fun t => t.trim = t) rfl fun p => p.trimmed
  rw [text, Text.trim_between, hpattern]

theorem comma_not_mem_text : ',' ∉ e.text := by
  have hpattern : ',' ∉ e.patternText :=
    e.patternText_of (P := fun t => ',' ∉ t) List.not_mem_nil fun p => p.no_comma
  have hblanks (b : Blanks) : ',' ∉ b.text := Text.not_mem_blanks b.blank (by decide)
  simp [text, hpattern, hblanks]

theorem feed_not_mem_text : '\n' ∉ e.text := by
  have hpattern : '\n' ∉ e.patternText :=
    e.patternText_of (P := fun t => '\n' ∉ t) List.not_mem_nil fun p => p.line
  simp [text, hpattern, e.before.line, e.behind.line]

theorem dashless_text : Dashless e.text := by
  have hblanks (b : Blanks) : '-' ∉ b.text := Text.not_mem_blanks b.blank (by decide)
  have hpattern : Dashless e.patternText := by
    apply e.patternText_of
    · exact .nil
    · intro p
      rw [dashless_iff, ← Text.includes_iff]
      simp [p.no_dashes]
  have hend : Dashless (e.patternText ++ e.behind.text) :=
    hpattern.append (dashless_of_not_mem (hblanks _))
      (.inr fun h => hblanks _ (List.mem_of_head? h))
  exact (dashless_of_not_mem (hblanks _)).append hend
    (.inl fun h => hblanks _ (List.mem_of_getLast? h))

end ExemptEntry

/-! ## Lists and reasons -/

namespace Exemption

theorem listText_singleton (e : ExemptEntry) : listText [e] = e.text := List.intercalate_singleton

theorem listText_cons_cons (e f : ExemptEntry) (entries : List ExemptEntry) :
    listText (e :: f :: entries) = e.text ++ [','] ++ listText (f :: entries) :=
  List.intercalate_cons_cons

theorem dashless_listText (entries : List ExemptEntry) : Dashless (listText entries) := by
  have hcomma : Dashless [','] := .singleton _
  induction entries with
  | nil => exact .nil
  | cons e entries ih =>
    cases entries with
    | nil =>
      rw [listText_singleton]
      exact e.dashless_text
    | cons f entries =>
      rw [listText_cons_cons]
      exact (e.dashless_text.append hcomma (.inr (by simp))).append ih (.inl (by simp))

theorem feed_not_mem_listText (entries : List ExemptEntry) : '\n' ∉ listText entries := by
  induction entries with
  | nil => exact List.not_mem_nil
  | cons e entries ih =>
    cases entries with
    | nil =>
      rw [listText_singleton]
      exact e.feed_not_mem_text
    | cons f entries => simp [listText_cons_cons, e.feed_not_mem_text, ih]

theorem splitOn_listText {entries : List ExemptEntry} (hne : entries ≠ []) :
    Text.splitOn ',' (listText entries) = entries.map (·.text) := by
  have hcommas : ∀ t ∈ entries.map (·.text), ',' ∉ t := by
    intro t ht
    obtain ⟨e, -, rfl⟩ := List.mem_map.1 ht
    exact e.comma_not_mem_text
  rw [Text.splitOn_eq_splitOn, listText, List.splitOn_intercalate ',' hcommas (by simpa using hne)]

/-- The pieces between the commas are the patterns, and nothing where an entry has none. -/
theorem filter_trim_listText (entries : List ExemptEntry) :
    ((Text.splitOn ',' (listText entries)).map Text.trim).filter (!·.isEmpty) =
      entries.filterMap fun entry => entry.pattern.map (·.text) := by
  by_cases hne : entries = []
  · rw [hne]
    rfl
  rw [splitOn_listText hne, List.map_map]
  clear hne
  induction entries with
  | nil => rfl
  | cons e entries ih =>
    rw [List.map_cons, List.filter_cons, ih, Function.comp_apply, e.trim_text,
      ExemptEntry.patternText, List.filterMap_cons]
    cases e.pattern with
    | none => rfl
    | some p => simp [p.ne_nil]

/-- What stands behind the colon gives the patterns.  The list ends at the first two dashes, so that
there may be commas, colons and dashes in the reason. -/
theorem patternsOfValue_text (e : Exemption) :
    patternsOfValue (listText e.entries ++ e.reasonText) = e.patterns := by
  have hlist := dashless_listText e.entries
  rw [patterns, ← filter_trim_listText, patternsOfValue, reasonText]
  cases e.reason with
  | none =>
    have hcut := cutAtWord?_dashes_eq_none_iff.2 hlist
    rw [Option.map_none, Option.getD_none, List.append_nil]
    simp only [hcut]
  | some t =>
    have hspace : Dashless (listText e.entries ++ [' ']) :=
      hlist.append (.singleton _) (.inr (by simp))
    have hfirst : ¬ ['-', '-'] <:+: (listText e.entries ++ [' ']) ++ ['-', '-'].dropLast :=
      dashless_iff.1 (hspace.append (.singleton _) (.inl (by simp)))
    have hcut : Text.cutAtWord? ['-', '-'] (listText e.entries ++ (' ' :: '-' :: '-' :: t)) =
        some (listText e.entries ++ [' '], t) := by
      rw [← Text.cutAtWord?_of_first (List.cons_ne_nil _ _) hfirst t, List.append_assoc]
      rfl
    rw [Option.map_some, Option.getD_some]
    simp only [hcut]
    rw [Text.map_trim_splitOn_append (List.forall_mem_singleton.2 rfl) (by decide)]

end Exemption

/-! ## Carriage returns -/

/-- A carriage return at the end of a value is a blank behind the list, or a part of the reason. -/
theorem patternsOfValue_return (value : Text) :
    patternsOfValue (value ++ ['\r']) = patternsOfValue value := by
  rw [patternsOfValue, patternsOfValue]
  cases hcut : Text.cutAtWord? ['-', '-'] value with
  | some parts =>
    obtain ⟨hvalue, hfirst⟩ := Text.eq_append_of_cutAtWord? (List.cons_ne_nil _ _) hcut
    have hreturn : Text.cutAtWord? ['-', '-'] (value ++ ['\r']) =
        some (parts.1, parts.2 ++ ['\r']) := by
      rw [hvalue, List.append_assoc, List.append_assoc]
      exact Text.cutAtWord?_of_first (List.cons_ne_nil _ _) hfirst _
    simp only [hreturn]
  | none =>
    have hreturn : Text.cutAtWord? ['-', '-'] (value ++ ['\r']) = none := by
      rw [cutAtWord?_dashes_eq_none_iff] at hcut ⊢
      exact hcut.append (.singleton _) (.inr (by simp))
    simp only [hreturn]
    rw [Text.map_trim_splitOn_append (List.forall_mem_singleton.2 rfl) (by decide)]

/-- A carriage return at the end of a line says nothing. -/
theorem patternsOfLine_return (line : Text) :
    patternsOfLine (line ++ ['\r']) = patternsOfLine line := by
  by_cases hcolon : ':' ∈ line
  · obtain ⟨key, value, rfl, hkey⟩ := List.eq_append_cons_of_mem hcolon
    rw [List.append_assoc, List.cons_append, patternsOfLine, patternsOfLine,
      Text.cutAt?_append hkey, Text.cutAt?_append hkey]
    simp only [patternsOfValue_return]
  · have hreturn : ':' ∉ line ++ ['\r'] := by simp [hcolon]
    rw [patternsOfLine, patternsOfLine, Text.cutAt?_eq_none hcolon, Text.cutAt?_eq_none hreturn]

theorem patternsOfLine_dropReturn (line : Text) :
    patternsOfLine line.dropReturn = patternsOfLine line := by
  by_cases hlast : line.getLast? = some '\r'
  · obtain ⟨start, rfl⟩ := List.getLast?_eq_some_iff.1 hlast
    rw [Text.dropReturn_concat, patternsOfLine_return]
  · rw [Text.dropReturn_of_getLast? hlast]

/-! ## Lines -/

namespace Exemption

variable (e : Exemption)

theorem toLower_mem_exemptionKey {c : Char} (hc : c ∈ e.key) : c.toLower ∈ exemptionKey := by
  rw [← e.key_eq]
  exact List.mem_map_of_mem hc

/-- No blank is the capital of a letter in the key. -/
theorem solid_key : Text.Solid e.key := by
  intro c hc
  have hmem := e.toLower_mem_exemptionKey hc
  have hsolid : Text.Solid exemptionKey := by decide
  cases hblank : Text.isBlank c with
  | false => rfl
  | true =>
    rw [Text.toLower_of_isBlank hblank] at hmem
    rw [hsolid c hmem] at hblank
    cases hblank

theorem isExemptionKey_keyText : isExemptionKey e.keyText = true := by
  rw [isExemptionKey, keyText, Text.trim_between, e.solid_key.trim]
  exact decide_eq_true e.key_eq

theorem colon_not_mem_keyText : ':' ∉ e.keyText := by
  have hkey : ':' ∉ e.key := fun hmem => absurd (e.toLower_mem_exemptionKey hmem) (by decide)
  have hblanks (b : Blanks) : ':' ∉ b.text := Text.not_mem_blanks b.blank (by decide)
  simp [keyText, hkey, hblanks]

theorem feed_not_mem_text : '\n' ∉ e.text := by
  have hkey : '\n' ∉ e.key := fun hmem => absurd (e.toLower_mem_exemptionKey hmem) (by decide)
  have hreason : '\n' ∉ e.reasonText := by
    rw [reasonText]
    cases hreason : e.reason with
    | none => exact List.not_mem_nil
    | some t => simp [e.reason_line t hreason]
  simp [text, keyText, hkey, hreason, feed_not_mem_listText, e.before.line, e.behind.line]

end Exemption

namespace TrailerLine

variable (l : TrailerLine)

theorem patternsOfLine_text : patternsOfLine l.text = l.patterns := by
  cases l with
  | remark line no_colon _ =>
    show patternsOfLine line = []
    rw [patternsOfLine, Text.cutAt?_eq_none no_colon]
  | other key value no_colon key_ne _ =>
    have hkey : isExemptionKey key = false := decide_eq_false key_ne
    show patternsOfLine (key ++ ':' :: value) = []
    rw [patternsOfLine, Text.cutAt?_append no_colon]
    simp [hkey]
  | exemption e =>
    show patternsOfLine e.text = e.patterns
    rw [Exemption.text, patternsOfLine, Text.cutAt?_append e.colon_not_mem_keyText]
    simp [e.isExemptionKey_keyText, e.patternsOfValue_text]

theorem feed_not_mem_text : '\n' ∉ l.text := by
  cases l with
  | remark _ _ line => exact line
  | other _ _ _ _ line => simpa [text] using line
  | exemption e => exact e.feed_not_mem_text

/-- A line gives its patterns, whatever its end is and whatever follows. -/
theorem exemptions_append (e : LineEnd) (rest : Text) :
    exemptions (l.text ++ (e.text ++ rest)) = l.patterns ++ exemptions rest := by
  have hfeed := l.feed_not_mem_text
  have hfirst : ∃ line, Text.lines (l.text ++ (e.text ++ rest)) = line :: Text.lines rest ∧
      patternsOfLine line = patternsOfLine l.text := by
    cases e with
    | feed =>
      -- the line may end in a carriage return of its own, which is lost to the end
      exact ⟨_, Text.lines_append hfeed rest, patternsOfLine_dropReturn _⟩
    | returnFeed =>
      have hreturn : '\n' ∉ l.text ++ ['\r'] := by simp [hfeed]
      have hlines := Text.lines_append hreturn rest
      rw [Text.dropReturn_concat, List.append_assoc] at hlines
      exact ⟨_, hlines, rfl⟩
  obtain ⟨line, hlines, hline⟩ := hfirst
  rw [exemptions, hlines, List.flatMap_cons, hline, l.patternsOfLine_text, exemptions]

theorem exemptions_last : exemptions l.text = l.patterns := by
  rw [exemptions, Text.lines_eq_singleton l.feed_not_mem_text, List.flatMap_singleton,
    l.patternsOfLine_text]

end TrailerLine

/-- Trailers exempt the patterns that are written in them, in order, and nothing else. -/
theorem Trailers.exemptions_text (t : Trailers) : exemptions t.text = t.patterns := by
  obtain ⟨ended, last⟩ := t
  rw [text, patterns]
  induction ended with
  | nil => exact last.exemptions_last
  | cons l ended ih =>
    dsimp only at ih ⊢
    rw [List.flatMap_cons, List.append_assoc, List.append_assoc, l.1.exemptions_append, ih,
      List.flatMap_cons, List.append_assoc]

/-- A key in capitals, an empty entry, a pattern that ends in a dash, tabs around all of them, a
reason with signs in it, and ends of both kinds. -/
def signedTrailers : Trailers :=
  let tab : Blanks := ⟨['\t'], List.forall_mem_singleton.2 rfl, by decide⟩
  { ended :=
      [ (.exemption
          { before := tab
            key := "IGNORE-if-changed".toList
            key_eq := by decide
            behind := tab
            entries :=
              [ ⟨tab, some ⟨"a.ts".toList, by decide, by decide, by decide, by decide, by decide⟩,
                  tab⟩,
                ⟨tab, none, tab⟩,
                ⟨tab, some ⟨"b-".toList, by decide, by decide, by decide, by decide, by decide⟩,
                  tab⟩ ]
            reason := some " see: c, d -- e".toList
            reason_line := by decide },
          .returnFeed),
        (.other "Signed-off-by".toList " f".toList (by decide) (by decide) (by decide), .feed) ]
    last := .remark "g".toList (by decide) (by decide) }

example : signedTrailers.text =
      "\tIGNORE-if-changed\t:\ta.ts\t,\t\t,\tb-\t -- see: c, d -- e\r\nSigned-off-by: f\ng".toList ∧
    signedTrailers.patterns = ["a.ts".toList, "b-".toList] := by
  decide +kernel

end Git

end Lockstep
