import Lockstep.Glob.Bracket

/-!
# Groups

A group in a pattern is a sign and alternatives in parentheses: `@(a|b)` for one of
them, `?(a|b)` for one at the most, `*(a|b)` and `+(a|b)` for any number, with or
without none, and `!(a|b)` for what is none of them.  Alternatives hold groups in
their turn.

A text is read into parts (`readParts`).  Then groups that stand alone in an
alternative are merged with the group around them where the signs allow it
(`Part.flatten`), and what follows a negated group is copied into its alternatives
(`Part.fill`), for an alternative is ruled out only if the rest matches too.
-/

namespace Lockstep

namespace Glob

/-! ## Signs of groups -/

/-- The kinds of groups. -/
inductive GroupKind where
  | one
  | optional
  | many
  | some
  | not
  deriving DecidableEq, Repr

namespace GroupKind

/-- The character before the parenthesis. -/
def sign : GroupKind → Char
  | one => '@'
  | optional => '?'
  | many => '*'
  | some => '+'
  | not => '!'

/-- The kind that a character announces. -/
def ofSign? (c : Char) : Option GroupKind :=
  [one, optional, many, some, not].find? fun kind => kind.sign = c

/-- Whether the alternatives of a group can stand directly in a group around it. -/
def adopts : (outer inner : GroupKind) → Bool
  | one, one | not, one => true
  | optional, optional | optional, one => true
  | some, some | some, one => true
  | many, not => false
  | many, _ => true
  | _, _ => false

/-- Whether they can, once an empty alternative is added to them. -/
def adoptsWithEmpty : (outer inner : GroupKind) → Bool
  | one, optional | not, optional => true
  | some, optional | some, many => true
  | _, _ => false

/-- The kind of a group and the one group that it consists of, taken together. -/
def merged? : (outer inner : GroupKind) → Option GroupKind
  | not, not => .some one
  | optional, many | optional, some => .some many
  | one, inner => .some inner
  | some, optional | some, many => .some many
  | _, _ => none

/-- Whether reading goes on into an inner group without counting it as a level. -/
def admits (outer inner : GroupKind) : Bool := outer.adopts inner || outer.adoptsWithEmpty inner

end GroupKind

/-! ## Parts -/

mutual

/-- A part of a text. -/
inductive Part where
  /-- A stretch without groups. -/
  | run (t : Text)
  /-- A group that is never closed, and all that follows. -/
  | unclosed (t : Text)
  /-- A group.  It ends bare if nothing, or a group, stands before its closing parenthesis. -/
  | group (kind : GroupKind) (bare : Bool) (alternatives : List Branch)

/-- An alternative of a group. -/
inductive Branch where
  /-- An alternative is in front if it can be the start of what its group starts; and what follows
  the group is to be copied into it so many times. -/
  | mk (inFront : Bool) (fills : Nat) (parts : List Part)

end

/-! ## Reading parts -/

/-- Where a reader stands with respect to brackets. -/
inductive BracketPlace where
  | outside
  /-- Directly behind the opening bracket. -/
  | opened
  /-- Directly behind the sign that turns a class around. -/
  | turned
  | inside
  deriving DecidableEq, Repr

/-- Behind one more character that no backslash protects. -/
def BracketPlace.next (c : Char) : BracketPlace → BracketPlace
  | .outside => if c = '[' then .opened else .outside
  | .opened => if c = '!' || c = '^' then .turned else .inside
  | .turned => .inside
  | .inside => if c = ']' then .outside else .inside

/-- Behind a character that takes part in an escape. -/
def BracketPlace.pass : BracketPlace → BracketPlace
  | .outside => .outside
  | _ => .inside

/-- A group that is being read. -/
structure OpenGroup where
  kind : GroupKind
  /-- How many groups around it count. -/
  level : Nat
  /-- The alternatives before the one at hand. -/
  done : List Branch
  /-- The parts before the group. -/
  before : List Part
  /-- The text from the sign of the group on. -/
  text : Text

/-- Whether a group of a kind is opened inside of those that are open, the innermost first. -/
def opens (groups : List OpenGroup) (kind : GroupKind) : Bool :=
  match groups with
  | [] => true
  | g :: _ => g.level ≤ 2 || g.kind.admits kind

/-- The level of a group of a kind inside of those that are open. -/
def levelIn (groups : List OpenGroup) (kind : GroupKind) : Nat :=
  match groups with
  | [] => 1
  | g :: _ => if g.kind.admits kind then g.level else g.level + 1

/-- A run, unless it is empty. -/
def Part.ofRun (t : Text) : List Part := if t.isEmpty then [] else [.run t]

/-- An alternative as read. -/
def Branch.read (kind : GroupKind) (parts : List Part) : Branch :=
  .mk true (if kind = .not then 1 else 0) parts

/-- Where the reading of parts stands. -/
structure PartReader where
  /-- The groups that are open, the innermost first. -/
  groups : List OpenGroup := []
  /-- Whether the next character is the parenthesis of a group. -/
  entering : Bool := false
  bracket : BracketPlace := .outside
  escaped : Bool := false
  /-- The parts before the run at hand. -/
  parts : List Part := []
  /-- The run at hand, backwards. -/
  run : Text := []

namespace PartReader

/-- The parts up to here. -/
def soFar (r : PartReader) : List Part := r.parts ++ Part.ofRun r.run.reverse

/-- Behind one more character of the run. -/
def push (r : PartReader) (c : Char) : PartReader := { r with run := c :: r.run }

/-- Behind the sign of a group. -/
def enter (r : PartReader) (kind : GroupKind) (text : Text) : PartReader :=
  { groups := ⟨kind, levelIn r.groups kind, [], r.soFar, text⟩ :: r.groups, entering := true }

/-- Behind a character that neither an escape nor a bracket takes. -/
def structural (r : PartReader) (c : Char) : PartReader :=
  match r.groups with
  | [] => r.push c
  | g :: groups =>
    if c = '|' then
      { groups := { g with done := g.done ++ [.read g.kind r.soFar] } :: groups }
    else if c = ')' then
      let group := Part.group g.kind r.run.isEmpty (g.done ++ [.read g.kind r.soFar])
      { groups, parts := g.before ++ [group] }
    else r.push c

/-- The parts at the end of the text.  If a group is open then, the outermost one is no group. -/
def finish (r : PartReader) : List Part :=
  match r.groups.getLast? with
  | none => r.soFar
  | some g => g.before ++ [.unclosed g.text]

end PartReader

/-- The kind of group that begins with a character and what follows it. -/
def groupAt? (groups : List OpenGroup) (c : Char) (rest : Text) : Option GroupKind :=
  if rest.head? = some '(' then (GroupKind.ofSign? c).filter (opens groups) else none

/-- The parts of a text behind what has been read. -/
def readPartsFrom (r : PartReader) : Text → List Part
  | [] => r.finish
  | c :: rest =>
    if r.entering then readPartsFrom { r with entering := false } rest
    else if r.escaped || c = '\\' then
      readPartsFrom { r.push c with bracket := r.bracket.pass, escaped := !r.escaped } rest
    else if r.bracket ≠ .outside || c = '[' then
      readPartsFrom { r.push c with bracket := r.bracket.next c } rest
    else
      match groupAt? r.groups c rest with
      | some kind => readPartsFrom (r.enter kind (c :: rest)) rest
      | none => readPartsFrom (r.structural c) rest

/-- The parts of a text. -/
def readParts (t : Text) : List Part := readPartsFrom {} t

/-! ## Merging groups -/

/-- The group that an alternative consists of, if it is one. -/
def Branch.sole? : Branch → Option (GroupKind × List Branch)
  | .mk _ _ [.group kind _ alternatives] => some (kind, alternatives)
  | _ => none

/-- An alternative that moves into a group of a kind. -/
def Branch.moved (outer : GroupKind) : Branch → Branch
  | .mk inFront fills parts => .mk inFront (if outer = .not then fills + 1 else fills) parts

/-- The alternatives that take the place of one in a group of a kind, if others do. -/
def Branch.adopted? (outer : GroupKind) (b : Branch) : Option (List Branch) :=
  match b.sole? with
  | none => none
  | some (inner, alternatives) =>
    if outer.adopts inner then some (alternatives.map (Branch.moved outer))
    else if outer.adoptsWithEmpty inner then
      some ((alternatives ++ [Branch.mk false 0 []]).map (Branch.moved outer))
    else none

/-- The group that is merged with the only alternative of a group, if it can be. -/
def mergedSole? (outer : GroupKind) : List Branch → Option (GroupKind × List Branch)
  | [b] => do
    let (inner, alternatives) ← b.sole?
    let kind ← outer.merged? inner
    some (kind, alternatives)
  | _ => none

/-- Merges a group with what its alternatives consist of, ten times at the most. -/
def mergeGroup : Nat → GroupKind → Bool → List Branch → Part
  | 0, kind, bare, alternatives => .group kind bare alternatives
  | fuel + 1, kind, bare, alternatives =>
    if alternatives.any fun b => (b.adopted? kind).isSome then
      mergeGroup fuel kind bare (alternatives.flatMap fun b => (b.adopted? kind).getD [b])
    else
      match mergedSole? kind alternatives with
      | some (kind, alternatives) => mergeGroup fuel kind false alternatives
      | none => .group kind bare alternatives

mutual

/-- A part with the groups in it merged. -/
def Part.flatten : Part → Part
  | .group kind bare alternatives => mergeGroup 10 kind bare (Branch.flattenAll alternatives)
  | .run t => .run t
  | .unclosed t => .unclosed t

/-- Parts with the groups in them merged. -/
def Part.flattenAll : List Part → List Part
  | [] => []
  | p :: parts => p.flatten :: Part.flattenAll parts

/-- An alternative with the groups in it merged. -/
def Branch.flatten : Branch → Branch
  | .mk inFront fills parts => .mk inFront fills (Part.flattenAll parts)

/-- Alternatives with the groups in them merged. -/
def Branch.flattenAll : List Branch → List Branch
  | [] => []
  | b :: branches => b.flatten :: Branch.flattenAll branches

end

/-! ## Copying what follows -/

mutual

/-- A part that is copied.  In a copy, only the first alternative of a group is in front, and no
group ends bare. -/
def Part.copy : Part → Part
  | .group kind _ alternatives => .group kind false (Branch.copyAll true alternatives)
  | .run t => .run t
  | .unclosed t => .unclosed t

/-- Parts that are copied. -/
def Part.copyAll : List Part → List Part
  | [] => []
  | p :: parts => p.copy :: Part.copyAll parts

/-- An alternative that is copied. -/
def Branch.copy (inFront : Bool) : Branch → Branch
  | .mk _ _ parts => .mk inFront 0 (Part.copyAll parts)

/-- Alternatives that are copied. -/
def Branch.copyAll (inFront : Bool) : List Branch → List Branch
  | [] => []
  | b :: branches => b.copy inFront :: Branch.copyAll false branches

end

mutual

/-- A part with what follows copied into the alternatives that ask for it. -/
def Part.fill (following : List Part) : Part → Part
  | .group kind bare alternatives => .group kind bare (Branch.fillAll following alternatives)
  | .run t => .run t
  | .unclosed t => .unclosed t
termination_by structural p => p

/-- Parts of which each has the later ones and what follows them copied. -/
def Part.fillAll (following : List Part) : List Part → List Part
  | [] => []
  | p :: parts =>
    let later := Part.fillAll following parts
    p.fill (later ++ following) :: later
termination_by structural parts => parts

/-- An alternative with what follows its group copied into it, if it asks for it. -/
def Branch.fill (following : List Part) : Branch → Branch
  | .mk inFront fills parts =>
    let copies := (List.replicate fills (Part.copyAll following)).flatten
    .mk inFront 0 (Part.fillAll following parts ++ copies)
termination_by structural b => b

/-- Alternatives with what follows their group copied into those that ask for it. -/
def Branch.fillAll (following : List Part) : List Branch → List Branch
  | [] => []
  | b :: branches => b.fill following :: Branch.fillAll following branches
termination_by structural branches => branches

end

/-- The parts of a text, ready to be written as an expression. -/
def parts (t : Text) : List Part := Part.fillAll [] (Part.flattenAll (readParts t))

end Glob

end Lockstep
