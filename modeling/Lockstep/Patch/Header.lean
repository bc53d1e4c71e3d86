import Lockstep.Text.Blank
import Lockstep.Patch.LineNumber

/-!
# Header lines of a diff

The lines of a diff between the hunks, each of a fixed form: where a file starts,
which names it has, which mode, and where a hunk starts.  The header of a hunk is
read in two ways, a strict one that decides how many lines belong to the hunk and
a loose one that decides where a hunk starts.
-/

namespace Lockstep

namespace Header

/-! ## Small readers -/

/-- A run of digits and what follows it; there must be a digit. -/
def digits? (t : Text) : Option (Text × Text) :=
  match Text.spanDigits t with
  | ([], _) => none
  | (digits, rest) => some (digits, rest)

/-- What follows a run of blanks; there must be a blank. -/
def blanks? (t : Text) : Option Text :=
  match t with
  | c :: rest => if Text.isBlank c then some (Text.trimStart rest) else none
  | [] => none

/-- What follows one blank. -/
def blank? (t : Text) : Option Text :=
  match t with
  | c :: rest => if Text.isBlank c then some rest else none
  | [] => none

/-- What follows a text that fits a shape, in which `d` is any digit and a space any blank. -/
def shape? : (shape t : Text) → Option Text
  | [], t => some t
  | _ :: _, [] => none
  | s :: shape, c :: t =>
    if (if s = 'd' then c.isDigit else if s = ' ' then Text.isBlank c else c = s) then
      shape? shape t
    else none

/-! ## Headers of hunks -/

/-- The numbers in the header of a hunk. -/
structure HunkHeader where
  oldStart : Text
  oldLines : Option Text
  newStart : Text
  newLines : Option Text
  deriving DecidableEq, Repr

/-- A count, which is 1 if it is not given. -/
def count (digits : Option Text) : Nat := (digits.map Text.digitsToNat).getD 1

/-- A start and maybe a comma and a count, strictly: a comma has a count behind it. -/
def strictSpan? (t : Text) : Option (Text × Option Text × Text) := do
  let (start, rest) ← digits? t
  match rest with
  | ',' :: rest =>
    let (lines, rest) ← digits? rest
    some (start, some lines, rest)
  | rest => some (start, none, rest)

/-- A start and maybe a count, loosely: a comma may end the span. -/
def looseSpan? (t : Text) : Option (Text × Option Text × Text) := do
  let (start, rest) ← digits? t
  let rest := (Text.after? [','] rest).getD rest
  match digits? rest with
  | some (lines, rest) => some (start, some lines, rest)
  | none => some (start, none, rest)

/-- The header of a hunk, strictly. -/
def strictHunk? (line : Text) : Option HunkHeader := do
  let rest ← Text.after? "@@ -".toList line
  let (oldStart, oldLines, rest) ← strictSpan? rest
  let rest ← Text.after? " +".toList rest
  let (newStart, newLines, rest) ← strictSpan? rest
  let _ ← Text.after? " @@".toList rest
  some ⟨oldStart, oldLines, newStart, newLines⟩

/-- The header of a hunk, loosely. -/
def looseHunk? (line : Text) : Option HunkHeader := do
  let rest ← Text.after? ['@', '@'] line
  let rest ← blanks? rest
  let rest ← Text.after? ['-'] rest
  let (oldStart, oldLines, rest) ← looseSpan? rest
  let rest ← blanks? rest
  let rest ← Text.after? ['+'] rest
  let (newStart, newLines, rest) ← looseSpan? rest
  let rest ← blank? rest
  let _ ← Text.after? ['@', '@'] rest
  some ⟨oldStart, oldLines, newStart, newLines⟩

/-! ## Names of files -/

/-- The text without one of the letters that stand for a side, and a slash. -/
def dropSide (t : Text) : Text :=
  match t with
  | c :: '/' :: rest => if "abiwco12".toList.contains c then rest else t
  | _ => t

/-- Whether a time stamp starts here, behind the date and the time: a blank, a sign and four digits,
maybe behind a character and digits. -/
def isZone (t : Text) : Bool :=
  let zone (t : Text) : Bool :=
    (shape? " +dddd".toList t).isSome || (shape? " -dddd".toList t).isSome
  zone t ||
    match t with
    | c :: rest =>
      !Text.isLineEnd c && (match digits? rest with | some (_, rest) => zone rest | none => false)
    | [] => false

/-- Whether a time stamp starts here. -/
def isStamp (t : Text) : Bool :=
  match shape? "dddd-dd-dd dd:dd:dd".toList t with
  | some rest => isZone rest
  | none => false

/-- What stands before the first tab or time stamp, if there is one. -/
def beforeStamp? : Text → Option Text
  | [] => none
  | c :: rest =>
    if c = '\t' || isStamp (c :: rest) then some [] else (beforeStamp? rest).map (c :: ·)

/-- Whether a character is a quote. -/
def isQuote (c : Char) : Bool := c = '"' || c = '\''

/-- The text without a quote at its start, which a backslash may stand before. -/
def dropStartQuote (t : Text) : Text :=
  match t with
  | '\\' :: c :: rest => if isQuote c then rest else t
  | c :: rest => if isQuote c then rest else t
  | [] => []

/-- The text without a quote at its end, which a backslash may stand before. -/
def dropEndQuote (t : Text) : Text :=
  match t.reverse with
  | c :: '\\' :: rest => if isQuote c then rest.reverse else t
  | c :: rest => if isQuote c then rest.reverse else t
  | [] => []

/-- The name in a line that gives one side of a file. -/
def sideName (line : Text) : Text :=
  let name := Text.trim (line.dropWhile fun c => c = '-' || c = '+')
  let name := match beforeStamp? name with
    | some before => before.trim
    | none => name
  dropSide (dropEndQuote (dropStartQuote name))

/-- Whether the other name of a line with two names starts here: a space, maybe between quotes, and
a side. -/
def isOtherName (t : Text) : Bool :=
  let dropQuote (t : Text) : Text :=
    match t with
    | c :: rest => if isQuote c then rest else t
    | [] => []
  match dropQuote t with
  | ' ' :: rest =>
    match dropQuote rest with
    | c :: '/' :: _ => "biwco12".toList.contains c
    | _ => false
  | _ => false

/-- The longest stretch of a line that the other name follows, and what is behind it. -/
def longestName? : Text → Option (Text × Text)
  | [] => none
  | c :: rest =>
    match if Text.isLineEnd c then none else longestName? rest with
    | some (name, behind) => some (c :: name, behind)
    | none => if isOtherName (c :: rest) then some ([], c :: rest) else none

/-- The first name in a line with two names, side included, and what is behind it. -/
def firstName? : Text → Option (Text × Text)
  | [] => none
  | c :: rest =>
    let here : Option (Text × Text) :=
      match rest with
      | '/' :: name =>
        let upToOther :=
          if "aiwco12".toList.contains c then
            (longestName? name).map fun (name, behind) => (c :: '/' :: name, behind)
          else none
        match upToOther with
        | some found => some found
        | none =>
          if "biwco12".toList.contains c && !name.any Text.isLineEnd then
            some (c :: '/' :: name, [])
          else none
      | _ => none
    match here with
    | some found => some found
    | none => firstName? rest

/-- A name from a line with two names, without its side and without a quote at its end. -/
def cleanName (name : Text) : Text :=
  let name := dropSide name
  if name.getLast?.any isQuote then name.dropLast else name

/-- The names of both sides in a line with two names. -/
def bothNames (line : Text) : Option Text × Option Text :=
  match firstName? line with
  | none => (none, none)
  | some (old, behind) =>
    (some (cleanName old), (firstName? behind).map fun (new, _) => cleanName new)

/-! ## Kinds of header lines -/

/-- A header line. -/
inductive Kind where
  /-- A file starts. -/
  | file (old new : Option Text)
  /-- The file is new. -/
  | created
  /-- The file is gone. -/
  | deleted
  /-- Something else is said about the file. -/
  | about
  /-- The name of the file on the old side. -/
  | old (name : Text)
  /-- The name of the file on the new side. -/
  | new (name : Text)
  /-- A hunk starts. -/
  | hunk (header : HunkHeader)
  deriving DecidableEq, Repr

/-- Whether a text is digits to its end. -/
def isDigits (t : Text) : Bool := !t.isEmpty && t.all Char.isDigit

/-- Whether a line is a word and digits behind it. -/
def isMode (word : String) (line : Text) : Bool :=
  match Text.after? word.toList line with
  | some rest => isDigits rest
  | none => false

/-- Whether a line is an index line: two hashes, maybe with a mode behind them. -/
def isIndex (line : Text) : Bool :=
  let result : Option Unit := do
    let rest ← Text.after? "index".toList line
    let rest ← blank? rest
    let (hash, rest) := rest.span Char.isAlphanum
    let rest ← Text.after? ['.', '.'] rest
    let (hash', rest) := rest.span Char.isAlphanum
    guard (!hash.isEmpty && !hash'.isEmpty)
    guard (rest.isEmpty || ((blank? rest).map isDigits).getD false)
  result.isSome

/-- Whether a line starts with a word and a blank. -/
def startsWith (word : String) (line : Text) : Bool :=
  ((Text.after? word.toList line).bind blank?).isSome

/-- What a line between hunks says, if it says anything. -/
def read? (line : Text) : Option Kind :=
  if startsWith "diff" line then
    let (old, new) := bothNames line
    some (.file old new)
  else if isMode "new file mode " line then some .created
  else if isMode "deleted file mode " line then some .deleted
  else if isMode "old mode " line || isMode "new mode " line || isIndex line then some .about
  else if startsWith "---" line then some (.old (sideName line))
  else if startsWith "+++" line then some (.new (sideName line))
  else (looseHunk? line).map .hunk

end Header

end Lockstep
