import Lockstep.Text.Blank
import Lockstep.Text.Lines

/-!
# Exemptions

A commit message can exempt files from checking in a trailer: a key, a colon, a
list of patterns with commas between them, and behind two dashes maybe a reason.
-/

namespace Lockstep

namespace Git

/-- The key of the trailer that exempts files. -/
def exemptionKey : Text := "ignore-if-changed".toList

/-- Whether a text is the key, in upper or lower case. -/
def isExemptionKey (t : Text) : Bool := t.trim.map Char.toLower = exemptionKey

/-- The patterns in the value of a trailer. -/
def patternsOfValue (value : Text) : List Text :=
  let listed := match Text.cutAtWord? ['-', '-'] value with
    | some (before, _) => before
    | none => value
  ((Text.splitOn ',' listed).map Text.trim).filter (!·.isEmpty)

/-- The patterns that a line of trailers exempts. -/
def patternsOfLine (line : Text) : List Text :=
  match Text.cutAt? ':' line with
  | some (key, value) => if isExemptionKey key then patternsOfValue value else []
  | none => []

/-- The patterns that trailers exempt. -/
def exemptions (trailers : Text) : List Text := trailers.lines.flatMap patternsOfLine

end Git

end Lockstep
