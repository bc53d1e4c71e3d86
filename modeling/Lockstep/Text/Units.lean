import Lockstep.Text.Basic

/-!
# 16-bit units

Lengths, positions and the order of texts go by 16-bit units: a character up to
U+FFFF is one unit, and any other is a pair, a high one and a low one.  So
U+FF5E sorts after U+1F600, whose first unit is 0xD83D.
-/

namespace Lockstep

namespace Text

/-- The 16-bit units of a character. -/
def unitsOf (c : Char) : List Nat :=
  if c.toNat < 0x10000 then [c.toNat]
  else [0xD800 + (c.toNat - 0x10000) / 0x400, 0xDC00 + (c.toNat - 0x10000) % 0x400]

/-- The 16-bit units of a text. -/
def units (t : Text) : List Nat := t.flatMap unitsOf

/-- Whether a character takes a single unit. -/
def isSingleUnit (c : Char) : Bool := c.toNat < 0x10000

/-- The length of a text in units. -/
def unitLength : Text → Nat
  | [] => 0
  | c :: rest => (if isSingleUnit c then 1 else 2) + unitLength rest

/-- The code point that a high unit and a low unit write together, if they are such a pair. -/
def pair? (high low : Nat) : Option Nat :=
  if 0xD800 ≤ high ∧ high < 0xDC00 ∧ 0xDC00 ≤ low ∧ low < 0xE000 then
    some (0x10000 + (high - 0xD800) * 0x400 + (low - 0xDC00))
  else none

/-- The text that units write.  A half of a pair that stands alone is shown as U+FFFD. -/
def ofUnits : List Nat → Text
  | [] => []
  | [unit] => [single unit]
  | high :: low :: rest =>
    match pair? high low with
    | some n => Char.ofNat n :: ofUnits rest
    | none => single high :: ofUnits (low :: rest)
where
  /-- The character of a unit that stands alone. -/
  single (unit : Nat) : Char := if unit.isValidChar then Char.ofNat unit else '\uFFFD'

/-- `a` does not come after `b` in the order of their units. -/
def unitsLe (a b : Text) : Bool := !decide (units b < units a)

/-- Sorts by a text key, keeping items with equal keys in the order they came. -/
def sortBy (key : α → Text) (items : List α) : List α :=
  items.mergeSort fun a b => unitsLe (key a) (key b)

/-- Sorted, each text once. -/
def sortedDistinct (items : List Text) : List Text := sortBy id items.eraseDups

end Text

end Lockstep
