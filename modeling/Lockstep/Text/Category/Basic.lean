/-!
# General categories

A general category of characters is a set of code points.  It is held as a list
of intervals in ascending order, both ends included; the tables stand in the
modules beside this one.
-/

namespace Lockstep

namespace Category

/-- Intervals of code points, both ends included. -/
abbrev Ranges := List (Nat × Nat)

/-- Whether a code point lies in one of the intervals. -/
def Ranges.has (ranges : Ranges) (n : Nat) : Bool :=
  ranges.any fun (low, high) => low ≤ n && n ≤ high

end Category

end Lockstep
