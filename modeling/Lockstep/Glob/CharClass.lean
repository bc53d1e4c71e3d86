import Lockstep.Text.Units
import Lockstep.Text.Category.Letter
import Lockstep.Text.Category.Upper
import Lockstep.Text.Category.Lower
import Lockstep.Text.Category.Sign
import Lockstep.Text.Category.Other

/-!
# Classes of symbols

A class in a regular expression lets in one symbol.  Symbols are 16-bit units, or
whole code points as soon as the expression names a class of Unicode; the
granularity says which.

A class is written as a list of signs, and reading them can fail: a range that
rises from unit to unit may fall once the halves of its ends are joined to code
points.
-/

namespace Lockstep

namespace Glob

/-! ## Symbols -/

/-- What a text is compared by. -/
inductive Granularity where
  | units
  | codePoints
  deriving DecidableEq, Repr

/-- The symbols of a text. -/
def Granularity.symbols (g : Granularity) (t : Text) : List Nat :=
  match g with
  | .units => t.units
  | .codePoints => t.map Char.toNat

/-- The symbol that a unit makes together with the unit before it, if it makes one. -/
def Granularity.join? (g : Granularity) (before unit : Nat) : Option Nat :=
  match g with
  | .units => none
  | .codePoints => Text.pair? before unit

/-! ## Named classes -/

/-- The classes that have a name. -/
inductive NamedClass where
  | alnum | alpha | ascii | blank | cntrl | digit | graph | lower | print | punct | space | upper
  | word | xdigit
  deriving DecidableEq, Repr

namespace NamedClass

/-- The name of a class. -/
def name : NamedClass → String
  | alnum => "alnum" | alpha => "alpha" | ascii => "ascii" | blank => "blank" | cntrl => "cntrl"
  | digit => "digit" | graph => "graph" | lower => "lower" | print => "print" | punct => "punct"
  | space => "space" | upper => "upper" | word => "word" | xdigit => "xdigit"

/-- Every class that has a name. -/
def all : List NamedClass :=
  [alnum, alpha, ascii, blank, cntrl, digit, graph, lower, print, punct, space, upper, word, xdigit]

/-- How a class is written inside brackets, behind its own opening bracket. -/
def spelling (n : NamedClass) : Text := ':' :: n.name.toList ++ [':', ']']

/-- The class whose spelling a text starts with. -/
def at? (t : Text) : Option NamedClass := all.find? fun n => (Text.after? n.spelling t).isSome

/-- Whether the class is one of Unicode, which is told by code points only. -/
def byCodePoint : NamedClass → Bool
  | ascii | xdigit => false
  | _ => true

/-- The code points of a class, or for the one that is defined by what it leaves out, the code
points left out. -/
def ranges : NamedClass → List Category.Ranges
  | alnum => [Category.letter, Category.letterNumber, Category.decimal]
  | alpha => [Category.letter, Category.letterNumber]
  | ascii => [[(0x00, 0x7F)]]
  | blank => [Category.space, [(0x09, 0x09)]]
  | cntrl => [Category.control]
  | digit => [Category.decimal]
  | graph => [Category.separator, Category.other]
  | lower => [Category.lower]
  | print => [Category.other]
  | punct => [Category.punctuation]
  | space => [Category.separator, [(0x09, 0x0D)]]
  | upper => [Category.upper]
  | word => [Category.letter, Category.letterNumber, Category.decimal, Category.connector]
  | xdigit => [[(0x30, 0x39), (0x41, 0x46), (0x61, 0x66)]]

/-- Whether a class is defined by what it leaves out. -/
def leavesOut : NamedClass → Bool
  | graph => true
  | _ => false

/-- Whether a symbol is among the code points listed for a class. -/
def lists (n : NamedClass) (symbol : Nat) : Bool := n.ranges.any (·.has symbol)

/-- A property of Unicode as an expression writes it. -/
def property (name : String) : String := "\\p\x7b" ++ name ++ "\x7d"

/-- How the code points of a class are written in an expression. -/
def written : NamedClass → String
  | alnum => property "L" ++ property "Nl" ++ property "Nd"
  | alpha => property "L" ++ property "Nl"
  | ascii => "\\x00-\\x7f"
  | blank => property "Zs" ++ "\\t"
  | cntrl => property "Cc"
  | digit => property "Nd"
  | graph => property "Z" ++ property "C"
  | lower => property "Ll"
  | print => property "C"
  | punct => property "P"
  | space => property "Z" ++ "\\t\\r\\n\\v\\f"
  | upper => property "Lu"
  | word => property "L" ++ property "Nl" ++ property "Nd" ++ property "Pc"
  | xdigit => "A-Fa-f0-9"

end NamedClass

/-! ## Classes as written -/

/-- A sign of a class. -/
inductive ClassSign where
  /-- A unit that stands for itself. -/
  | unit (n : Nat)
  /-- The dash of a range. -/
  | dash
  | named (n : NamedClass)
  deriving DecidableEq, Repr

/-- The units that a backslash stands before inside a class. -/
def classSpecials : Text := ['[', ']', '\\', '-']

/-- How a sign is written. -/
def ClassSign.written : ClassSign → List Nat
  | .unit n => if (classSpecials.map Char.toNat).contains n then ['\\'.toNat, n] else [n]
  | .dash => ['-'.toNat]
  | .named n => n.written.toList.map Char.toNat

/-- Whether a sign is told by code points only. -/
def ClassSign.byCodePoint : ClassSign → Bool
  | .named n => n.byCodePoint
  | _ => false

/-! ## Classes -/

/-- One entry of a class. -/
inductive ClassItem where
  | range (low high : Nat)
  | named (n : NamedClass)
  deriving DecidableEq, Repr

/-- Whether an entry lists a symbol. -/
def ClassItem.lists (symbol : Nat) : ClassItem → Bool
  | .range low high => low ≤ symbol && symbol ≤ high
  | .named n => n.lists symbol

/-- A class of symbols: entries, and whether they say what is left out instead of what is in. -/
structure CharClass where
  negated : Bool
  items : List ClassItem
  deriving DecidableEq, Repr

namespace CharClass

/-- Whether a class holds a symbol. -/
def has (cls : CharClass) (symbol : Nat) : Bool := cls.items.any (·.lists symbol) != cls.negated

/-- Joins what is one symbol at a granularity. -/
def join (g : Granularity) : List ClassSign → List ClassSign
  | [] => []
  | .unit high :: .unit low :: signs =>
    match g.join? high low with
    | some n => .unit n :: join g signs
    | none => .unit high :: join g (.unit low :: signs)
  | s :: signs => s :: join g signs

/-- The entries that signs write, unless a range falls. -/
def items? : List ClassSign → Option (List ClassItem)
  | [] => some []
  | .named n :: signs => (items? signs).map (.named n :: ·)
  | .unit low :: .dash :: .unit high :: signs =>
    if low ≤ high then (items? signs).map (.range low high :: ·) else none
  | .unit n :: signs => (items? signs).map (.range n n :: ·)
  | .dash :: signs => (items? signs).map (.range '-'.toNat '-'.toNat :: ·)

/-- Reads a class, unless a range in it falls.  A caret that has come to stand first turns the class
around even if it was meant as a symbol. -/
def read? (g : Granularity) (negated : Bool) (signs : List ClassSign) : Option CharClass :=
  let (negated, signs) :=
    match negated, signs with
    | false, .unit 0x5E :: signs => (true, signs)
    | negated, signs => (negated, signs)
  (items? (join g signs)).map (⟨negated, ·⟩)

end CharClass

end Glob

end Lockstep
