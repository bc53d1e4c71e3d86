import Lockstep.Text.Blank

/-!
# Brace groups

A brace group in a pattern stands for several patterns: `{a,b}` for `a` and for
`b`, `{1..3}` for the three numbers.  Expansion turns a pattern into the list of
patterns it stands for.

Before anything else the characters that a backslash protects are shielded: they
lose the backslash and are structure no more.  What is left is found group by
group.  A group directly behind a dollar sign is left alone, and so is a group
that is neither a sequence nor a set.
-/

namespace Lockstep

namespace Brace

/-! ## Shielding -/

/-- A character of a pattern under expansion.  A shielded one is never structure. -/
structure Mark where
  /-- The character itself. -/
  char : Char
  /-- Whether it is protected. -/
  shielded : Bool := false
  deriving DecidableEq, Repr

/-- A pattern under expansion. -/
abbrev Marks := List Mark

/-- Whether the mark is the structural character `c`. -/
def Mark.is (c : Char) (m : Mark) : Bool := !m.shielded && m.char == c

/-- The characters that a backslash shields. -/
def shieldable : Text := ['\\', '{', '}', ',', '.']

/-- Takes the backslash from the characters it shields. -/
def marks : Text → Marks
  | [] => []
  | [c] => [⟨c, false⟩]
  | c :: d :: rest =>
    if c = '\\' ∧ shieldable.contains d then ⟨d, true⟩ :: marks rest
    else ⟨c, false⟩ :: marks (d :: rest)

/-- The pattern that marks write. -/
def text (ms : Marks) : Text := ms.map (·.char)

/-! ## Finding a group -/

/-- A balanced group with what stands around it. -/
structure Group where
  before : Marks
  body : Marks
  after : Marks

/-- Looks for the brace that closes a group, `depth` groups further in: what stands before it and
behind it. -/
def closing? (depth : Nat) : Marks → Option (Marks × Marks)
  | [] => none
  | m :: rest =>
    if m.is '{' then (closing? (depth + 1) rest).map fun (body, after) => (m :: body, after)
    else if m.is '}' then
      match depth with
      | 0 => some ([], rest)
      | depth + 1 => (closing? depth rest).map fun (body, after) => (m :: body, after)
    else (closing? depth rest).map fun (body, after) => (m :: body, after)

/-- The first group that is closed.  An opening brace that is never closed is no structure. -/
def firstGroup? : Marks → Option Group
  | [] => none
  | m :: rest =>
    match if m.is '{' then closing? 0 rest else none with
    | some (body, after) => some ⟨[], body, after⟩
    | none => (firstGroup? rest).map fun g => { g with before := m :: g.before }

/-- Puts a mark in front of the first piece. -/
def consHead (m : Mark) : List Marks → List Marks
  | [] => [[m]]
  | piece :: pieces => (m :: piece) :: pieces

/-- Splits at the commas that stand in no closed group; `depth` groups are open. -/
def members (depth : Nat) : Marks → List Marks
  | [] => [[]]
  | m :: rest =>
    match depth with
    | 0 =>
      if m.is ',' then [] :: members 0 rest
      else if m.is '{' && (closing? 0 rest).isSome then consHead m (members 1 rest)
      else consHead m (members 0 rest)
    | inner + 1 =>
      if m.is '{' then consHead m (members (inner + 2) rest)
      else if m.is '}' then consHead m (members inner rest)
      else consHead m (members (inner + 1) rest)

/-! ## Sequences -/

/-- Splits at every pair of dots. -/
def splitDots : Text → List Text
  | [] => [[]]
  | [c] => [[c]]
  | c :: d :: rest =>
    if c = '.' ∧ d = '.' then [] :: splitDots rest else Text.consHead c (splitDots (d :: rest))

/-- The number that a text writes in decimal, with a minus sign at the most. -/
def integer? (t : Text) : Option Int :=
  match t with
  | '-' :: digits =>
    if digits.isEmpty || !digits.all Char.isDigit then none else some (-(Text.digitsToNat digits))
  | digits =>
    if digits.isEmpty || !digits.all Char.isDigit then none else some (Text.digitsToNat digits)

/-- The code of a text that is a single Latin letter. -/
def letter? (t : Text) : Option Int :=
  match t with
  | [c] => if c.isAlpha then some c.toNat else none
  | _ => none

/-- Whether a number is written with a zero in front. -/
def isPadded (t : Text) : Bool :=
  match Text.dropStart '-' (t.take 1) ++ t.drop 1 with
  | '0' :: d :: _ => d.isDigit
  | _ => false

/-- From `first` to `last`, both included if the steps reach them, up or down. -/
def count (first last : Int) (step : Nat) : List Int :=
  (List.range ((last - first).natAbs / step + 1)).map fun (i : Nat) =>
    if first ≤ last then first + (i * step : Nat) else first - (i * step : Nat)

/-- A number in decimal, filled up with zeros to a width that includes the minus sign. -/
def padded (width : Nat) (n : Int) : Text :=
  let digits := (toString n.natAbs).toList
  let sign : Text := if n < 0 then ['-'] else []
  sign ++ List.replicate (width - sign.length - digits.length) '0' ++ digits

/-- The elements of a sequence of numbers. -/
def numbers (first last step : Text) (x y : Int) (stride : Nat) : List Text :=
  let width :=
    if isPadded first || isPadded last || isPadded step then max first.length last.length else 0
  (count x y stride).map (padded width)

/-- The elements of a sequence of characters.  A backslash among them becomes nothing. -/
def letters (x y : Int) (stride : Nat) : List Text :=
  (count x y stride).map fun (n : Int) => if n = '\\'.toNat then [] else [Char.ofNat n.toNat]

/-- The elements of the sequence that a body writes, if it writes one. -/
def sequence? (body : Marks) : Option (List Text) :=
  if body.any (·.shielded) then none
  else
    let (first, last, step) :=
      match splitDots (text body) with
      | [first, last] => (first, last, ['1'])
      | [first, last, step] => (first, last, step)
      | _ => ([], [], [])
    match integer? step with
    | none => none
    | some stride =>
      let stride := max stride.natAbs 1
      match integer? first, integer? last, letter? first, letter? last with
      | some x, some y, _, _ => some (numbers first last step x y stride)
      | _, _, some x, some y => some (letters x y stride)
      | _, _, _, _ => none

/-! ## Expansion -/

/-- Whether a closing brace follows on the same line. -/
def closesOnLine : Marks → Bool
  | [] => false
  | m :: rest => m.is '}' || (!Text.isLineEnd m.char && closesOnLine rest)

/-- Whether a comma that no comma follows is followed by a closing brace. -/
def reopens : Marks → Bool
  | [] => false
  | m :: rest =>
    (m.is ',' && !(rest.head?.any (·.is ',')) && closesOnLine rest) || reopens rest

/-- A body between braces. -/
def wrap (body : Marks) : Marks := ⟨'{', false⟩ :: body ++ [⟨'}', false⟩]

/-- Every choice of an item followed by every choice of a rest. -/
def combine (before : Marks) (items rests : List Marks) : List Marks :=
  items.flatMap fun item => rests.map fun rest => before ++ item ++ rest

/-- The patterns that a pattern stands for.  Every step works on less text or on fewer closing
braces, so fuel for both is enough.  At the top, a set gives no empty pattern. -/
def expandMarks : (fuel : Nat) → (top : Bool) → Marks → List Marks
  | 0, _, ms => [ms]
  | fuel + 1, top, ms =>
    match firstGroup? ms with
    | none => [ms]
    | some g =>
      let rests := if g.after.isEmpty then [[]] else expandMarks fuel false g.after
      if g.before.getLast?.any (·.is '$') then combine g.before [wrap g.body] rests
      else
        match sequence? g.body with
        | some items => combine g.before (items.map fun item => item.map fun c => ⟨c, false⟩) rests
        | none =>
          if g.body.any (·.is ',') then
            match members 0 g.body with
            | [single] =>
              match (expandMarks fuel false single).map wrap with
              | [one] => rests.map fun rest => g.before ++ one ++ rest
              | many => keep top (combine g.before (many.flatMap (expandMarks fuel false)) rests)
            | many => keep top (combine g.before (many.flatMap (expandMarks fuel false)) rests)
          else if reopens g.after then
            expandMarks fuel top (g.before ++ ⟨'{', false⟩ :: g.body ++ ⟨'}', true⟩ :: g.after)
          else [ms]
where
  /-- At the top, only the patterns that are not empty. -/
  keep (top : Bool) (patterns : List Marks) : List Marks :=
    if top then patterns.filter (!·.isEmpty) else patterns

/-- Whether a pattern holds braces that could be a group: an opening one and, on the same line and
before any other opening one, a closing one. -/
def hasGroup (inside : Bool) : Text → Bool
  | [] => false
  | c :: rest =>
    if c = '{' then hasGroup true rest
    else if c = '}' && inside then true
    else hasGroup (inside && !Text.isLineEnd c) rest

/-- The patterns that a pattern stands for.  A pattern without a group stands for itself, and keeps
its backslashes.  Empty braces at the very start are no group. -/
def expand (pattern : Text) : List Text :=
  if hasGroup false pattern then
    let ms :=
      match pattern with
      | '{' :: '}' :: rest => ⟨'{', true⟩ :: ⟨'}', true⟩ :: marks rest
      | _ => marks pattern
    (expandMarks (2 * ms.length + 2) true ms).map text
  else [pattern]

end Brace

end Lockstep
