import Lockstep.Glob.Brace
import Lockstep.Glob.Segment

/-!
# Globs

A glob is a list of alternatives, each a list of segments.  It matches a path if
one of the alternatives matches the segments of the path, one by one; a segment
of two stars stands for any number of them.

The stretches between stars are looked for one after the other, each as long as
there is room behind it.  A stretch asks for as many stretches behind it as do
follow, but takes their lengths from the front of the list, so that a match can be
missed where the stretches in front are the longer ones.
-/

namespace Lockstep

namespace Glob

/-- The segments between the slashes of a text.  Slashes in a row are one slash. -/
def sections : Text → List Text
  | [] => [[]]
  | c :: rest =>
    if c = '/' then
      if rest.head? = some '/' then sections rest else [] :: sections rest
    else Text.consHead c (sections rest)

/-- Two stars. -/
def twoStars : Text := ['*', '*']

/-- Adds a segment to those before it, the last one first.  Two stars behind two stars add nothing,
and two dots take back a segment that is an ordinary name. -/
def addSection (before : List Text) (s : Text) : List Text :=
  match before with
  | [] => [s]
  | last :: earlier =>
    if s = twoStars ∧ last = twoStars then before
    else if s = ['.', '.'] ∧ ¬ [[], ['.'], ['.', '.'], twoStars].contains last then earlier
    else s :: before

/-- The segments of a pattern after these simplifications.  There is always one. -/
def simplify (ss : List Text) : List Text :=
  match (ss.foldl addSection []).reverse with
  | [] => [[]]
  | ss => ss

/-! ## Matching segments -/

/-- Whether segments of a pattern match segments of a path one by one.  Behind the last segment of
the pattern, an empty last segment of the path is let pass. -/
def stretchMatches : List Segment → List Text → Bool
  | [], path => path.isEmpty || path = [[]]
  | _ :: _, [] => false
  | segment :: rest, s :: path => segment.accepts s && stretchMatches rest path

/-- Looks for a stretch that `next` goes on from, as long as so many segments are left.  There is no
answer if they are used up, and the answer is no if what is passed over is made of dots. -/
def seek (room : Nat) (found : List Text → Bool) (next : List Text → Option Bool) :
    List Text → Option Bool
  | [] => none
  | s :: path =>
    if (s :: path).length < room then none
    else
      match if found (s :: path) then next (s :: path) else some false with
      | some false => if Segment.isDotName s then some false else seek room found next path
      | answer => answer

/-- How many stretches are looked for at the most. -/
def maxStretches : Nat := 200

/-- Looks for stretches in a path, one behind the other, after `depth` others.  Each comes with the
room that is to be left.  `sawSome` says whether segments at the end have been matched already. -/
def seekAll (sawSome : Bool) (depth : Nat) : List (Nat × List Segment) → List Text → Option Bool
  | [], path => some (path.all (!Segment.isDotName ·) && (sawSome || !path.isEmpty))
  | (room, stretch) :: rest, path =>
    seek room
      (fun path => decide (depth < maxStretches) &&
        stretchMatches stretch (path.take stretch.length))
      (fun path => seekAll sawSome (depth + 1) rest (path.drop stretch.length)) path

/-- The stretches between the stars. -/
def stretches : List Segment → List (List Segment)
  | [] => [[]]
  | .globstar :: rest => [] :: stretches rest
  | s :: rest =>
    match stretches rest with
    | [] => [[s]]
    | stretch :: others => (s :: stretch) :: others

/-- How much room stretches ask for, with `taken` segments at the end of the path used up.  Each
asks for itself and for as many stretches as follow it, but these are taken from the front. -/
def rooms (taken : Nat) (inner : List (List Segment)) : List Nat :=
  inner.zipIdx.map fun (stretch, i) =>
    taken + (inner.take (inner.length - 1 - i)).flatten.length + stretch.length

/-- How many segments at the end of a path the last stretch matches, if it does.  An empty last
segment of the path is let pass. -/
def tailMatch? (last : List Segment) (path : List Text) : Option Nat :=
  if last.isEmpty then some 0
  else if path.length < last.length then none
  else if stretchMatches last (path.drop (path.length - last.length)) then some last.length
  else if path.getLast? = some [] && path.length ≠ last.length &&
      stretchMatches last (path.drop (path.length - last.length - 1)) then some (last.length + 1)
  else none

/-- Whether stretches with stars between them match the segments of a path. -/
def starsMatch (first : List Segment) (inner : List (List Segment)) (last : List Segment)
    (path : List Text) : Bool :=
  let rest := path.drop first.length
  stretchMatches first (path.take first.length) &&
    match tailMatch? last rest with
    | none => false
    | some taken =>
      if inner.isEmpty then
        let middle := rest.take (rest.length - taken)
        middle.all (!Segment.isDotName ·) && (taken ≠ 0 || !middle.isEmpty)
      else seekAll (taken ≠ 0) 0 ((rooms taken inner).zip inner) rest == some true

/-- Whether segments of a pattern match the segments of a path. -/
def sectionsMatch (segments : List Segment) (path : List Text) : Bool :=
  match stretches segments with
  | first :: second :: others =>
    starsMatch first (second :: others).dropLast ((second :: others).getLast?.getD []) path
  | _ => stretchMatches segments path

end Glob

/-- A pattern ready for matching: alternatives, each a list of segments. -/
structure Glob where
  /-- The alternatives. -/
  alternatives : List (List Glob.Segment)
  deriving DecidableEq, Repr

namespace Glob

/-- Reads a pattern. -/
def read (pattern : Text) : Except BadExpression Glob := do
  let alternatives ← (Brace.expand pattern).mapM fun t => (simplify (sections t)).mapM Segment.read
  return ⟨alternatives⟩

/-- Whether the glob matches a path. -/
def accepts (g : Glob) (path : Text) : Bool :=
  let path := sections path
  g.alternatives.any fun segments => sectionsMatch segments path

end Glob

end Lockstep
