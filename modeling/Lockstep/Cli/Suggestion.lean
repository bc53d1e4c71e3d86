import Lockstep.Text.Units

/-!
# Suggestions

When an option is not known, the known ones that are spelled most like it are
suggested.  Likeness is the number of edits between two words: a unit inserted,
deleted or replaced, or two neighbours swapped, where nothing is edited twice.
-/

namespace Lockstep

namespace Cli

/-- The next row of the table of distances: `c` is the unit of the row, `above` the row before it
without its first entry, `corner` the entry before that, and `last` the entry just written.  Where
`c` and the unit before it are those of `b` swapped, the entry two rows and two columns back counts
too. -/
def distanceRow (previous : Option Nat) (c : Nat) :
    (b : List Nat) → (before : Option Nat) → (above : List Nat) → (corner last : Nat) →
      (swapped : List Nat) → List Nat
  | d :: b, before, up :: above, corner, last, swapped =>
    let replaced := corner + if c = d then 0 else 1
    let edited := min (min (up + 1) (last + 1)) replaced
    let here :=
      match swapped with
      | entry :: _ => if previous = some d ∧ before = some c then min edited (entry + 1) else edited
      | [] => edited
    here :: distanceRow previous c b (some d) above up here
      (if before.isNone then swapped else swapped.drop 1)
  | _, _, _, _, _, _ => []

/-- The distances of ever longer starts of the first word, from the last two rows. -/
def distanceRows (b : List Nat) :
    (a : List Nat) → (previous : Option Nat) → (row twoBack : List Nat) → Nat
  | [], _, row, _ => row.getLastD 0
  | c :: a, previous, row, twoBack =>
    let first := row.headD 0 + 1
    let next := first :: distanceRow previous c b none (row.drop 1) (row.headD 0) first twoBack
    distanceRows b a (some c) next row

/-- The most edits that are worth a suggestion. -/
def maxDistance : Nat := 3

/-- The number of edits between two words.  Words of very different lengths are simply far apart. -/
def distance (a b : List Nat) : Nat :=
  if maxDistance < max a.length b.length - min a.length b.length then max a.length b.length
  else distanceRows b a none (List.range (b.length + 1)) []

/-- The words nearest to `word`, with their distance.  A word counts if more than two fifths of it
are right. -/
def nearest (word : List Nat) (candidates : List Text) : List Text :=
  (candidates.foldl consider (maxDistance, [])).2
where
  /-- Takes one more candidate into account. -/
  consider (best : Nat × List Text) (candidate : Text) : Nat × List Text :=
    let d := distance word candidate.units
    let length := max word.length candidate.units.length
    if 5 * (length - d) ≤ 2 * length then best
    else if d < best.1 then (d, [candidate])
    else if d = best.1 then (d, best.2 ++ [candidate])
    else best

/-- The question whether one of the nearest words was meant. -/
def suggestion (word : Text) (candidates : List Text) : String :=
  let similar :=
    (Text.sortBy id (nearest word.units candidates)).map fun t => s!"--{String.ofList t}"
  match similar with
  | [] => ""
  | [one] => s!"\n(Did you mean {one}?)"
  | many =>
    let listed := String.intercalate ", " many
    s!"\n(Did you mean one of {listed}?)"

end Cli

end Lockstep
