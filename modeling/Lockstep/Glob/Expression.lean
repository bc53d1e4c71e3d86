import Lockstep.Glob.CharClass
import Lockstep.Text.Blank

/-!
# Regular expressions

A segment of a pattern that needs more than a comparison is matched by a regular
expression.  The expression is first written, as signs, and then read: what is
written need not be an expression, for a sign of repetition may stand where
nothing can be repeated, and an expression that is read by code points knows fewer
escapes than one that is read by units.

An expression is matched from its end to its start.  `Verdicts` says, for every
suffix of the symbols at hand, whether what follows the current part matches it,
and each part turns the verdicts for what follows it into the verdicts for itself.
-/

namespace Lockstep

namespace Glob

/-! ## Expressions as written -/

/-- How often something may follow itself. -/
inductive Repetition where
  | optional
  | any
  | atLeastOnce
  deriving DecidableEq, Repr

/-- The character that asks for a repetition. -/
def Repetition.sign : Repetition → Char
  | .optional => '?'
  | .any => '*'
  | .atLeastOnce => '+'

/-- What an opening parenthesis begins. -/
inductive Opening where
  /-- A group. -/
  | plain
  /-- A group that is remembered. -/
  | remembered
  /-- Something that must not come next. -/
  | notAhead
  deriving DecidableEq, Repr

/-- How an opening parenthesis is written. -/
def Opening.written : Opening → String
  | .plain => "(?:"
  | .remembered => "("
  | .notAhead => "(?!"

/-- A sign of an expression. -/
inductive Sign where
  /-- A unit that stands for itself, behind a backslash or not. -/
  | unit (n : Nat) (escaped : Bool)
  /-- A divide between alternatives. -/
  | bar
  /-- Any symbol but a slash. -/
  | notSlash
  /-- Any symbol but one that ends a line. -/
  | anyOnLine
  /-- A class of symbols. -/
  | cls (negated : Bool) (signs : List ClassSign)
  /-- What stands in parentheses. -/
  | group (opening : Opening) (body : List Sign)
  /-- Asks for a repetition of what stands before it, the shortest one first if it is reluctant. -/
  | repeated (times : Repetition) (reluctant : Bool)
  /-- The start of the text. -/
  | textStart
  /-- The end of the text. -/
  | textEnd
  deriving Repr

namespace Sign

/-- The units of a text, which are all of the Latin alphabet here. -/
def latin (s : String) : List Nat := s.toList.map Char.toNat

mutual

/-- How a sign is written. -/
def written : Sign → List Nat
  | unit n escaped => if escaped then ['\\'.toNat, n] else [n]
  | bar => ['|'.toNat]
  | notSlash => latin "[^/]"
  | anyOnLine => ['.'.toNat]
  | cls negated signs =>
    latin (if negated then "[^" else "[") ++ signs.flatMap ClassSign.written ++ [']'.toNat]
  | group opening body => latin opening.written ++ writtenAll body ++ [')'.toNat]
  | repeated times reluctant =>
    if reluctant then [times.sign.toNat, '?'.toNat] else [times.sign.toNat]
  | textStart => ['^'.toNat]
  | textEnd => ['$'.toNat]

/-- How signs are written one behind the other. -/
def writtenAll : List Sign → List Nat
  | [] => []
  | s :: signs => s.written ++ writtenAll signs

end

mutual

/-- Whether a sign names a class that is told by code points only. -/
def byCodePoint : Sign → Bool
  | cls _ signs => signs.any ClassSign.byCodePoint
  | group _ body => anyByCodePoint body
  | _ => false

/-- Whether one of several signs does. -/
def anyByCodePoint : List Sign → Bool
  | [] => false
  | s :: signs => s.byCodePoint || anyByCodePoint signs

end

/-- The characters that mean something in an expression, or look as if they did. -/
def specials : Text :=
  ['-', '[', ']', '\x7b', '\x7d', '(', ')', '*', '+', '?', '.', ',', '\\', '^', '$', '|', '#']

/-- A unit that stands for itself, whatever it would mean. -/
def ofUnit (n : Nat) : Sign :=
  unit n (specials.contains (Char.ofNat n) || Text.isBlank (Char.ofNat n))

/-- A character that stands for itself, whatever it would mean. -/
def literal (c : Char) : List Sign := (Text.unitsOf c).map ofUnit

/-- What may stand behind a backslash in an expression that is read by code points. -/
def escapable : Text :=
  ['^', '$', '\\', '.', '*', '+', '?', '(', ')', '[', ']', '\x7b', '\x7d', '|', '/']

end Sign

/-! ## Expressions -/

/-- What a symbol is asked for. -/
inductive SymbolTest where
  | exactly (n : Nat)
  | notSlash
  | onLine
  | cls (c : CharClass)
  deriving DecidableEq, Repr

/-- Whether a symbol passes. -/
def SymbolTest.passes (symbol : Nat) : SymbolTest → Bool
  | .exactly n => symbol == n
  | .notSlash => symbol != '/'.toNat
  | .onLine => !([0x0A, 0x0D, 0x2028, 0x2029].contains symbol)
  | .cls c => c.has symbol

/-- A regular expression. -/
inductive Expression where
  /-- Nothing is asked for. -/
  | nothing
  /-- One symbol. -/
  | symbol (test : SymbolTest)
  | seq (a b : Expression)
  | alt (a b : Expression)
  | repeated (times : Repetition) (a : Expression)
  /-- What follows does not start so. -/
  | notAhead (a : Expression)
  | textStart
  | textEnd
  deriving DecidableEq, Repr

/-- Why what is written is no expression. -/
inductive ExpressionFault where
  | invalidEscape
  | nothingToRepeat
  | rangeFalls
  deriving DecidableEq, Repr

/-- The fault in words. -/
def ExpressionFault.reason : ExpressionFault → String
  | .invalidEscape => "Invalid escape"
  | .nothingToRepeat => "Nothing to repeat"
  | .rangeFalls => "Range out of order in character class"

/-! ## Reading -/

namespace Expression

/-- The part of an expression that has been read. -/
structure Progress where
  /-- The alternatives before the last bar. -/
  alternatives : Option Expression := none
  /-- The alternative at hand without `last`. -/
  before : Expression := .nothing
  /-- What a repetition would repeat. -/
  last : Option Expression := none

namespace Progress

/-- The alternative at hand. -/
def sequence (p : Progress) : Expression :=
  match p.last with
  | none => p.before
  | some e => .seq p.before e

/-- All that has been read. -/
def whole (p : Progress) : Expression :=
  match p.alternatives with
  | none => p.sequence
  | some e => .alt e p.sequence

/-- Behind something that can be repeated. -/
def add (p : Progress) (e : Expression) : Progress :=
  { p with before := p.sequence, last := some e }

/-- Behind something that cannot be repeated. -/
def addFixed (p : Progress) (e : Expression) : Progress :=
  { p with before := .seq p.sequence e, last := none }

/-- Behind one more unit, which may be the second half of a symbol. -/
def addUnit (g : Granularity) (p : Progress) (n : Nat) : Progress :=
  match p.last with
  | some (.symbol (.exactly high)) =>
    match g.join? high n with
    | some joined => { p with last := some (.symbol (.exactly joined)) }
    | none => p.add (.symbol (.exactly n))
  | _ => p.add (.symbol (.exactly n))

end Progress

mutual

/-- Behind one more sign. -/
def Progress.after (g : Granularity) (p : Progress) : Sign → Except ExpressionFault Progress
  | .unit n escaped =>
    if escaped && g = .codePoints && !(Sign.escapable.map Char.toNat).contains n then
      .error .invalidEscape
    else .ok (p.addUnit g n)
  | .bar => .ok { alternatives := some p.whole }
  | .notSlash => .ok (p.add (.symbol .notSlash))
  | .anyOnLine => .ok (p.add (.symbol .onLine))
  | .cls negated inside =>
    match CharClass.read? g negated inside with
    | none => .error .rangeFalls
    | some c => .ok (p.add (.symbol (.cls c)))
  | .group opening body => do
    let inside ← Progress.afterAll g {} body
    match opening with
    | .notAhead => return p.addFixed (.notAhead inside.whole)
    | _ => return p.add inside.whole
  | .repeated times _ =>
    match p.last with
    | none => .error .nothingToRepeat
    | some e => .ok { p with before := .seq p.before (.repeated times e), last := none }
  | .textStart => .ok (p.addFixed .textStart)
  | .textEnd => .ok (p.addFixed .textEnd)

/-- Behind more signs, one after the other. -/
def Progress.afterAll (g : Granularity) (p : Progress) : List Sign → Except ExpressionFault Progress
  | [] => .ok p
  | s :: signs => do
    let p ← p.after g s
    Progress.afterAll g p signs

end

/-- Reads an expression. -/
def read (g : Granularity) (signs : List Sign) : Except ExpressionFault Expression :=
  (Progress.afterAll g {} signs).map Progress.whole

end Expression

/-! ## Verdicts -/

/-- For every suffix of a list of symbols, the longest first, whether something matches it. -/
abbrev Verdicts := List Bool

namespace Verdicts

/-- Every suffix is matched. -/
def everywhere (symbols : List Nat) : Verdicts := symbols.map (fun _ => true) ++ [true]

/-- Either of two things matches. -/
def or (v w : Verdicts) : Verdicts := List.zipWith (· || ·) v w

/-- One thing matches and another does not. -/
def butNot (v w : Verdicts) : Verdicts := List.zipWith (fun b c => b && !c) v w

/-- One symbol with the property `p`, and then what `v` tells. -/
def one (p : Nat → Bool) : List Nat → Verdicts → Verdicts
  | x :: symbols, _ :: v => (p x && v.headD false) :: one p symbols v
  | _, _ => [false]

/-- What `v` tells, at the start only. -/
def atStart : Verdicts → Verdicts
  | [] => []
  | b :: v => b :: v.map fun _ => false

/-- What `v` tells, at the end only. -/
def atEnd : Verdicts → Verdicts
  | [] => []
  | [b] => [b]
  | _ :: v => false :: atEnd v

end Verdicts

/-! ## Matching -/

namespace Expression

/-- The verdicts for an expression followed by what `v` tells.  A repetition that takes nothing
changes nothing, so there are as many rounds as there are symbols. -/
def before (symbols : List Nat) : Expression → Verdicts → Verdicts
  | nothing, v => v
  | symbol test, v => Verdicts.one (test.passes ·) symbols v
  | seq a b, v => a.before symbols (b.before symbols v)
  | alt a b, v => (a.before symbols v).or (b.before symbols v)
  | repeated .optional a, v => v.or (a.before symbols v)
  | repeated .any a, v => symbols.foldl (fun w _ => v.or (a.before symbols w)) v
  | repeated .atLeastOnce a, v =>
    a.before symbols (symbols.foldl (fun w _ => v.or (a.before symbols w)) v)
  | notAhead a, v => v.butNot (a.before symbols (Verdicts.everywhere symbols))
  | textStart, v => v.atStart
  | textEnd, v => v.atEnd

/-- Whether the expression matches somewhere in a list of symbols. -/
def occurs (e : Expression) (symbols : List Nat) : Bool :=
  (e.before symbols (Verdicts.everywhere symbols)).any id

end Expression

end Glob

end Lockstep
