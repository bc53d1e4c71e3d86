/-!
# Texts

A text is the list of its characters.  Everything the library reads or compares
(paths, patterns, names, lines) is a text in this sense, so that every reader
is an ordinary recursion on a list.

The operations here are the few that the readers share: cutting a text at the
first occurrence of something, and splitting it at every occurrence of a
character.
-/

namespace Lockstep

/-- A text is the list of its characters. -/
abbrev Text := List Char

namespace Text

/-! ## Cutting at the first occurrence -/

/-- What follows `start` in a text that starts so. -/
def after? : (start t : Text) → Option Text
  | [], t => some t
  | _ :: _, [] => none
  | s :: start, c :: t => if s = c then after? start t else none

/-- What stands before and after the first `sep`, if there is one. -/
def cutAt? (sep : Char) : Text → Option (Text × Text)
  | [] => none
  | c :: rest =>
    if c = sep then some ([], rest)
    else (cutAt? sep rest).map fun (before, after) => (c :: before, after)

/-- What stands before and after the first occurrence of `needle`, if there is one. -/
def cutAtWord? (needle : Text) : Text → Option (Text × Text)
  | [] => if needle.isEmpty then some ([], []) else none
  | c :: rest =>
    match after? needle (c :: rest) with
    | some after => some ([], after)
    | none => (cutAtWord? needle rest).map fun (before, after) => (c :: before, after)

/-- Whether `needle` occurs somewhere in the text. -/
def includes (needle t : Text) : Bool := (cutAtWord? needle t).isSome

/-! ## Splitting at every occurrence -/

/-- Puts a character in front of the first piece. -/
def consHead (c : Char) : List Text → List Text
  | [] => [[c]]
  | piece :: pieces => (c :: piece) :: pieces

/-- The pieces between the occurrences of `sep`.  There is always at least one piece, and two
separators in a row have an empty piece between them. -/
def splitOn (sep : Char) : Text → List Text
  | [] => [[]]
  | c :: rest => if c = sep then [] :: splitOn sep rest else consHead c (splitOn sep rest)

/-- Drops one empty piece from the end, as left behind by a separator that ends the text. -/
def dropEmptyLast (pieces : List Text) : List Text :=
  if pieces.getLast? = some [] then pieces.dropLast else pieces

/-- The fields of a listing in which a NUL ends every field. -/
def splitNul (listing : Text) : List Text := dropEmptyLast (splitOn '\x00' listing)

/-! ## Ends -/

/-- The text without `c` at its start. -/
def dropStart (c : Char) (t : Text) : Text := t.dropWhile (· = c)

/-- The text without `c` at its end. -/
def dropEnd (c : Char) (t : Text) : Text := (t.reverse.dropWhile (· = c)).reverse

/-- The decimal digits at the start of a text, and the rest. -/
def spanDigits (t : Text) : Text × Text := t.span Char.isDigit

/-- The number that a run of decimal digits writes. -/
def digitsToNat (digits : Text) : Nat :=
  digits.foldl (fun n d => 10 * n + (d.toNat - '0'.toNat)) 0

end Text

end Lockstep
