import Lockstep.Text.Basic

/-!
# Lines

A line ends at a line feed, and a carriage return directly before it belongs to
the end.  A carriage return that stands anywhere else is part of the line.
-/

namespace Lockstep

namespace Text

/-- The lines of a text.  A text that ends in a line feed has an empty last line. -/
def lines : Text → List Text
  | [] => [[]]
  | '\n' :: rest => [] :: lines rest
  | '\r' :: '\n' :: rest => [] :: lines rest
  | c :: rest => consHead c (lines rest)

/-- The lines of a file: a line feed at the very end starts no further line. -/
def fileLines (t : Text) : List Text := dropEmptyLast (lines t)

end Text

end Lockstep
