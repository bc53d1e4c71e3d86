import Lockstep.Glob.Expression

/-!
# Brackets

An opening bracket in a pattern begins a class, if a closing one follows.  A class
is read in two steps: first its tokens up to the closing bracket, then the entries
that the tokens write, unit by unit.  A range that runs backwards is dropped.  A
class with nothing left in it, or with a named class at the end of a range, can
match nothing and spoils the rest of the text.
-/

namespace Lockstep

namespace Glob

/-! ## Tokens -/

/-- A token of a class. -/
inductive ClassToken where
  | char (c : Char)
  | dash
  | named (n : NamedClass)
  deriving DecidableEq, Repr

/-- Where the reading of tokens stands. -/
inductive ClassPlace where
  /-- At the very start, where a closing bracket is an ordinary character. -/
  | start
  /-- Behind the start. -/
  | inside
  /-- Behind a backslash. -/
  | escape
  /-- Inside a class name of which so many characters are still to come. -/
  | name (left : Nat)

/-- Whether a closing bracket ends the class here. -/
def ClassPlace.mayClose : ClassPlace → Bool
  | .inside => true
  | _ => false

/-- The tokens up to the closing bracket, and what follows it; nothing follows if the bracket is
never closed. -/
def classTokens : ClassPlace → Text → List ClassToken × Option Text
  | _, [] => ([], none)
  | .name (left + 1), _ :: rest => classTokens (if left = 0 then .inside else .name left) rest
  | .escape, c :: rest =>
    let (tokens, after) := classTokens .inside rest
    (.char c :: tokens, after)
  | place, c :: rest =>
    if c = ']' && place.mayClose then ([], some rest)
    else if c = '\\' then classTokens .escape rest
    else
      match if c = '[' then NamedClass.at? rest else none with
      | some n =>
        let (tokens, after) := classTokens (.name n.spelling.length) rest
        (.named n :: tokens, after)
      | none =>
        let (tokens, after) := classTokens .inside rest
        ((if c = '-' then .dash else .char c) :: tokens, after)

/-! ## Entries -/

/-- A token as the units it writes. -/
inductive ClassAtom where
  | unit (n : Nat)
  | dash
  | named (n : NamedClass)

/-- The units that tokens write. -/
def classAtoms (tokens : List ClassToken) : List ClassAtom :=
  tokens.flatMap fun
    | .char c => (Text.unitsOf c).map .unit
    | .dash => [.dash]
    | .named n => [.named n]

/-- The unit of an atom that is not a named class. -/
def ClassAtom.unit? : ClassAtom → Option Nat
  | .unit n => some n
  | .dash => some '-'.toNat
  | .named _ => none

/-- The entry for a single unit. -/
def ClassItem.single (n : Nat) : ClassItem := .range n n

/-- The range between two units, if it does not run backwards. -/
def ClassItem.between (low high : Nat) : List ClassItem :=
  if low ≤ high then [.range low high] else []

/-- The entries that atoms write; none at all if a range ends in a named class. -/
def classItems : List ClassAtom → Option (List ClassItem)
  | [] => some []
  | .named n :: rest => (classItems rest).map (.named n :: ·)
  | a :: .dash :: [] =>
    some ((a.unit?.map ClassItem.single).toList ++ [.single '-'.toNat])
  | a :: .dash :: b :: rest =>
    match a.unit?, b.unit? with
    | some low, some high => (classItems rest).map (ClassItem.between low high ++ ·)
    | _, _ => none
  | a :: rest => (classItems rest).map ((a.unit?.map ClassItem.single).toList ++ ·)

/-- The signs that an entry is written with. -/
def ClassItem.signs : ClassItem → List ClassSign
  | .range low high => if low = high then [.unit low] else [.unit low, .dash, .unit high]
  | .named n => [.named n]

/-- Whether an entry lists what is left out. -/
def ClassItem.leavesOut : ClassItem → Bool
  | .named n => n.leavesOut
  | .range .. => false

/-! ## Brackets -/

/-- What an opening bracket turns out to be. -/
inductive Bracket where
  /-- An ordinary character. -/
  | plain
  /-- A class, as an expression writes it. -/
  | cls (signs : List Sign) (after : Text)
  /-- Something that matches nothing. -/
  | spoiled

/-- The unit that a class is about, if it is about one only, which ends no line. -/
def soleUnit? (negated : Bool) (items : List ClassItem) : Option Nat :=
  match items with
  | [.range low high] =>
    if low = high && !negated && !Text.isLineEnd (Char.ofNat low) then some low else none
  | _ => none

/-- How entries are written, those that list what is left out apart from the others. -/
def signsOfItems (negated : Bool) (items : List ClassItem) : List Sign :=
  let (exclusions, listed) := items.partition (·.leavesOut)
  let inside := Sign.cls negated (listed.flatMap (·.signs))
  let outside := Sign.cls (!negated) (exclusions.flatMap (·.signs))
  if exclusions.isEmpty then [inside]
  else if listed.isEmpty then [outside]
  else [.group .remembered [inside, .bar, outside]]

/-- Reads what follows an opening bracket. -/
def readBracket (t : Text) : Bracket :=
  let (negated, body) :=
    match t with
    | '!' :: body => (true, body)
    | '^' :: body => (true, body)
    | body => (false, body)
  let (tokens, after) := classTokens .start body
  match classItems (classAtoms tokens), after with
  | none, _ => .spoiled
  | some _, none => .plain
  | some [], some _ => .spoiled
  | some items, some after =>
    match soleUnit? negated items with
    | some n => .cls [.ofUnit n] after
    | none => .cls (signsOfItems negated items) after

end Glob

end Lockstep
