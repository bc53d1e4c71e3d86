import Lockstep.Text.Basic

/-!
# Line numbers of a diff

The numbers in the header of a hunk are whole numbers held to 53 significant
bits, like any number of double precision: up to 2^53 every number is held
exactly, beyond that the nearest one that can be held stands for it (of two that
are as near, the one with the even significand), and a number that is too large
for that is infinite.

Its text has the fewest digits that read back as the same number.
-/

namespace Lockstep

/-- A line number of a diff. -/
inductive LineNumber where
  | finite (value : Nat)
  | infinite
  deriving DecidableEq, Repr

namespace LineNumber

/-! ## Rounding -/

/-- The multiple of `unit` nearest to a number, of two the even multiple. -/
def nearestMultiple (unit n : Nat) : Nat :=
  let rest := n % unit
  if 2 * rest < unit ∨ (2 * rest = unit ∧ n / unit % 2 = 0) then n / unit * unit
  else (n / unit + 1) * unit

/-- The distance between the numbers of 53 bits around `n`. -/
def spacing (n : Nat) : Nat := Nat.pow 2 (n.log2 - 52)

/-- The number of 53 bits nearest to `n`. -/
def round (n : Nat) : Nat := if n < Nat.pow 2 53 then n else nearestMultiple (spacing n) n

/-- The line number that stands for a number. -/
def ofNat (n : Nat) : LineNumber :=
  let rounded := round n
  if rounded < Nat.pow 2 1024 then .finite rounded else .infinite

/-- The line number that a run of digits writes. -/
def ofDigits (digits : Text) : LineNumber := ofNat (Text.digitsToNat digits)

/-- The line number so many lines further down. -/
def plus : LineNumber → Nat → LineNumber
  | .finite value, n => ofNat (value + n)
  | .infinite, _ => .infinite

/-- The next line number. -/
def next (n : LineNumber) : LineNumber := n.plus 1

/-- Whether a line number is at most `m`. -/
def atMost (m : Nat) : LineNumber → Bool
  | .finite value => value ≤ m
  | .infinite => false

/-- Whether a line number is at least `m`. -/
def atLeast (m : Nat) : LineNumber → Bool
  | .finite value => m ≤ value
  | .infinite => true

/-! ## Decimal text -/

/-- Whether `candidate` rounds to `value`, a number of 53 bits that is at least 2^53.  The numbers
that do lie within half the spacing of it, and below a power of two the spacing is half as wide;
the ends belong to it if its significand is even.  All is counted in quarters. -/
def readsBack (value candidate : Nat) : Bool :=
  let unit := spacing value
  let below := if value = Nat.pow 2 value.log2 then unit else 2 * unit
  let above := 2 * unit
  if value / unit % 2 = 0 then
    4 * value ≤ 4 * candidate + below && 4 * candidate ≤ 4 * value + above
  else 4 * value < 4 * candidate + below && 4 * candidate < 4 * value + above

/-- The multiple of `grid` nearest to `value` that reads back as it. -/
def onGrid? (value grid : Nat) : Option Nat :=
  let low := value / grid * grid
  let high := low + grid
  if readsBack value low && (!readsBack value high || value - low ≤ high - value) then some low
  else if readsBack value high then some high
  else none

/-- The decimal with the fewest digits that reads back as `value`. -/
def shortest (value : Nat) : Nat :=
  if value < Nat.pow 2 53 then value
  else
    let digits := (toString value).length
    ((List.range digits).findSome? fun k => onGrid? value (Nat.pow 10 (digits - 1 - k))).getD value

/-- A decimal in positional notation up to 21 digits, and with an exponent beyond. -/
def decimalText (n : Nat) : String :=
  let digits := (toString n).toList
  if digits.length ≤ 21 then String.ofList digits
  else
    let exponent := toString (digits.length - 1)
    match Text.dropEnd '0' digits with
    | [d] => s!"{d}e+{exponent}"
    | d :: more => s!"{d}.{String.ofList more}e+{exponent}"
    | [] => "0"

/-- The text of a line number; an infinite one has none. -/
def text? : LineNumber → Option String
  | .finite value => some (decimalText (shortest value))
  | .infinite => none

end LineNumber

end Lockstep
