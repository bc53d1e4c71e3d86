import Lockstep.Glob.Group

/-!
# Segments

A segment is the part of a pattern between two slashes, and it is matched
against the part of a path between two slashes.

Some shapes of segment have a rule of their own: a run of stars, a run of stars
or of question marks before a plain ending, a star on both sides of a dot, a star
behind a dot.  A segment that needs no rule at all is compared as it stands.  All
others are written as a regular expression, which may turn out not to be one.
-/

namespace Lockstep

namespace Glob

/-! ## Runs -/

/-- Whether a text is stars and nothing else. -/
def isStars (t : Text) : Bool := !t.isEmpty && t.all (· = '*')

/-- Any run of symbols, which is not empty if there is to be some of it. -/
def anyRun (nonempty : Bool) : List Sign :=
  [.notSlash, .repeated (if nonempty then .atLeastOnce else .any) true]

/-- The characters that keep a backslash before them. -/
def protectable : Text :=
  ['(', ')', '.', '*', '\x7b', '\x7d', '+', '?', '[', ']', '^', '$', '\\', '!']

/-- A character behind a backslash.  A bar is not protected by it. -/
def protectedSigns (c : Char) : List Sign :=
  if c = '|' then [.bar] else (Text.unitsOf c).map (.unit · (protectable.contains c))

/-- How a run is written, behind a star or not; the first `skip` characters have been read already.
Stars in a row are one star. -/
def runSigns (star : List Sign) (behindStar : Bool) (skip : Nat) : Text → List Sign
  | [] => []
  | c :: rest =>
    match skip with
    | skip + 1 => runSigns star false skip rest
    | 0 =>
      if c = '\\' then
        match rest with
        | [] => Sign.literal c
        | d :: _ => protectedSigns d ++ runSigns star false 1 rest
      else if c = '*' then
        if behindStar then runSigns star true 0 rest else star ++ runSigns star true 0 rest
      else if c = '?' then .notSlash :: runSigns star false 0 rest
      else
        match if c = '[' then readBracket rest else .plain with
        | .plain => Sign.literal c ++ runSigns star false 0 rest
        | .cls signs after => signs ++ runSigns star false (rest.length - after.length) rest
        | .spoiled => [.textEnd, .anyOnLine]

/-- How a run is written.  Stars that are all of a run stand for some symbols if the run could be a
whole segment. -/
def runWritten (whole : Bool) (t : Text) : List Sign :=
  runSigns (anyRun (whole && isStars t)) false 0 t

/-! ## Guards -/

/-- The text is neither `.` nor `..`, if this is its start. -/
def notDots : Sign :=
  .group .notAhead
    [.group .plain [.textStart, .bar, .unit '/'.toNat false],
      .unit '.'.toNat true, .unit '.'.toNat true, .repeated .optional false,
      .group .plain [.textEnd, .bar, .unit '/'.toNat false]]

/-- Whether units begin with a class or with a dot that is not protected. -/
def startsWide (units : List Nat) : Bool :=
  units.head? = some '['.toNat || units.head? = some '.'.toNat

/-- Whether what is written could match `.` or `..` without being these texts: something wide comes
first, or behind one or two dots. -/
def couldBeDots (units : List Nat) : Bool :=
  let dot := ['\\'.toNat, '.'.toNat]
  startsWide units ||
    (dot.isPrefixOf units && startsWide (units.drop 2)) ||
    ((dot ++ dot).isPrefixOf units && startsWide (units.drop 4))

/-- Parts that start with a run and are not just the dots are guarded if they could match them. -/
def guarded (inFront : Bool) (parts : List Part) (signs : List Sign) : List Sign :=
  match parts with
  | .run t :: rest =>
    let isDots := rest.isEmpty && (t = ['.'] || t = ['.', '.'])
    if inFront && !isDots && couldBeDots (Sign.writtenAll signs) then notDots :: signs else signs
  | _ => signs

/-! ## Writing parts -/

/-- Whether a part is a negated group. -/
def Part.isNot : Part → Bool
  | .group .not _ _ => true
  | _ => false

/-- A group in which nothing stands and which could be a whole segment stands for itself. -/
def hollow (kind : GroupKind) (alternatives : Nat) : List Sign :=
  let inside := Sign.group .remembered (List.replicate (alternatives - 1) .bar)
  match kind with
  | .optional => [.repeated .optional false, inside]
  | .many => [.repeated .any false, inside]
  | .some => [.repeated .atLeastOnce false, inside]
  | _ => [.unit kind.sign.toNat false, inside]

/-- Puts bars between alternatives. -/
def joinBars : List (List Sign) → List Sign
  | [] => []
  | [signs] => signs
  | signs :: rest => signs ++ .bar :: joinBars rest

/-- How a group of written alternatives is written. -/
def groupWritten (kind : GroupKind) (bare : Bool) (body : List Sign) : List Sign :=
  match kind with
  | .one => [.group .plain body]
  | .optional => [.group .plain body, .repeated .optional false]
  | .many => [.group .plain body, .repeated .any false]
  | .some => [.group .plain body, .repeated .atLeastOnce false]
  | .not =>
    if bare then anyRun true
    else [.group .plain (.group .notAhead [.group .plain body] :: anyRun false)]

/-- What an alternative of a negated group must reach: the end of the segment. -/
def segmentEnd : Sign := .group .plain [.textEnd, .bar, .unit '/'.toNat true]

mutual

/-- How a part is written.  `inFront` and `atEnd` say whether it could be the start and the end of
the segment, and `whole` whether a run beside it could be all of it. -/
def Part.written (inFront atEnd whole : Bool) : Part → List Sign
  | .run t => runWritten whole t
  | .unclosed t => guarded inFront [.run t] (runWritten false t)
  | .group kind bare alternatives =>
    let branches := Branch.writtenAll kind inFront atEnd alternatives
    let branches := if inFront && atEnd then branches.filter (!·.isEmpty) else branches
    let body := joinBars branches
    if inFront && atEnd && body.isEmpty && kind ≠ .not then hollow kind alternatives.length
    else groupWritten kind bare body

/-- How parts are written one behind the other. -/
def Part.writtenAll (inFront atEnd whole : Bool) : List Part → List Sign
  | [] => []
  | p :: parts =>
    p.written inFront (atEnd && parts.isEmpty) whole ++
      Part.writtenAll (inFront && p.isNot) atEnd whole parts

/-- How an alternative of a group is written. -/
def Branch.written (kind : GroupKind) (inFront atEnd : Bool) : Branch → List Sign
  | .mk first _ parts =>
    let inFront := inFront && first
    let atEnd := atEnd || kind = .not
    let signs := guarded inFront parts (Part.writtenAll inFront atEnd (inFront && atEnd) parts)
    if kind = .not then signs ++ [segmentEnd] else signs

/-- How the alternatives of a group are written. -/
def Branch.writtenAll (kind : GroupKind) (inFront atEnd : Bool) : List Branch → List (List Sign)
  | [] => []
  | b :: branches =>
    b.written kind inFront atEnd :: Branch.writtenAll kind inFront atEnd branches

end

mutual

/-- Whether a part names a class that is told by code points only. -/
def Part.byCodePoint : Part → Bool
  | .run t | .unclosed t => Sign.anyByCodePoint (runWritten false t)
  | .group _ _ alternatives => Branch.anyByCodePoint alternatives

/-- Whether one of several parts does. -/
def Part.anyByCodePoint : List Part → Bool
  | [] => false
  | p :: parts => p.byCodePoint || Part.anyByCodePoint parts

/-- Whether an alternative does. -/
def Branch.byCodePoint : Branch → Bool
  | .mk _ _ parts => Part.anyByCodePoint parts

/-- Whether one of several alternatives does. -/
def Branch.anyByCodePoint : List Branch → Bool
  | [] => false
  | b :: branches => b.byCodePoint || Branch.anyByCodePoint branches

end

/-- Whether a sign makes a segment more than a plain text. -/
def Sign.isMagic : Sign → Bool
  | .unit .. | .bar | .repeated .. => false
  | .group .remembered body => body.any fun
    | .bar => false
    | _ => true
  | _ => true

/-- The units of a sign that is not magic, without the backslash. -/
def Sign.plain : Sign → List Nat
  | .unit n _ => [n]
  | s => s.written

/-! ## Segments -/

/-- A segment of a pattern. -/
inductive Segment where
  /-- Any number of segments of a path. -/
  | globstar
  /-- Exactly the text of these units. -/
  | literal (units : List Nat)
  /-- Any text but the empty one and the dots. -/
  | anyName
  /-- Any text with this ending. -/
  | ending (t : Text)
  /-- Any text of a length with this ending, but not the dots. -/
  | sized (length : Nat) (t : Text)
  /-- Any text with a dot in it, but not the dots. -/
  | dotted
  /-- Any text that starts with a dot, but not the dots. -/
  | hidden
  /-- Any text in which an expression occurs. -/
  | expression (g : Granularity) (e : Expression)
  deriving DecidableEq, Repr

/-- What is written for a segment, and why it is no expression. -/
structure BadExpression where
  /-- What is written. -/
  written : List Nat
  /-- How it was read. -/
  granularity : Granularity
  fault : ExpressionFault
  deriving DecidableEq, Repr

/-- The fault in words. -/
def BadExpression.message (e : BadExpression) : String :=
  let flags := if e.granularity = .codePoints then "u" else ""
  let written := String.ofList (Text.ofUnits e.written)
  s!"Invalid regular expression: /{written}/{flags}: {e.fault.reason}"

namespace Segment

/-- The characters that keep a segment from being of a simple shape. -/
def complex : Text := ['+', '@', '!', '?', '*', '[', '(']

/-- Whether a text is a plain ending. -/
def isPlainEnding (t : Text) : Bool := t.all (!complex.contains ·)

/-- Whether a text is a dot with a run of stars behind it. -/
def isDotStars (t : Text) : Bool :=
  match t with
  | '.' :: rest => isStars rest
  | _ => false

/-- The rule for a shape that has one of its own. -/
def shape? (t : Text) : Option Segment :=
  let behindStars := Text.dropStart '*' t
  let behindMarks := Text.dropStart '?' t
  if isStars t then some .anyName
  else if t.head? = some '*' && isPlainEnding behindStars then some (.ending behindStars)
  else if t.head? = some '?' && isPlainEnding behindMarks then
    some (.sized t.unitLength behindMarks)
  else if t.head? = some '*' && isDotStars behindStars then some .dotted
  else if isDotStars t then some .hidden
  else none

/-- Reads a segment without a rule of its own. -/
def ofText (t : Text) : Except BadExpression Segment :=
  let parts := parts t
  let signs := Part.writtenAll true true true parts
  if !signs.any Sign.isMagic then .ok (.literal (signs.flatMap Sign.plain))
  else
    let signs := .textStart :: guarded true parts signs ++ [.textEnd]
    let g := if Part.anyByCodePoint parts then .codePoints else .units
    match Expression.read g signs with
    | .ok e => .ok (.expression g e)
    | .error fault => .error ⟨Sign.writtenAll signs, g, fault⟩

/-- Reads a segment. -/
def read (t : Text) : Except BadExpression Segment :=
  if t = ['*', '*'] then .ok .globstar
  else if t.isEmpty then .ok (.literal [])
  else
    match shape? t with
    | some s => .ok s
    | none => ofText t

/-- Whether a text is a dot or two dots. -/
def isDotName (t : Text) : Bool := t = ['.'] || t = ['.', '.']

/-- Whether a segment of a pattern matches a segment of a path. -/
def accepts (s : Segment) (t : Text) : Bool :=
  match s with
  | globstar => !isDotName t
  | literal units => t.units = units
  | anyName => !t.isEmpty && !isDotName t
  | ending u => u.isSuffixOf t
  | sized length u => t.unitLength = length && u.isSuffixOf t && !isDotName t
  | dotted => t.contains '.' && !isDotName t
  | hidden => t.head? = some '.' && !isDotName t
  | expression g e => e.occurs (g.symbols t)

end Segment

end Glob

end Lockstep
