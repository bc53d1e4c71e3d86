import Lockstep.Failure
import Lockstep.Glob.Basic

/-!
# Patterns

A pattern selects paths, and with an exclamation mark before it excludes them
again.  It is matched from the root, so a slash at its start says nothing, and
what it matches it matches with all that lies below.  In an ordered set of
patterns the last one that matches a path decides.
-/

namespace Lockstep

/-- A pattern ready for matching. -/
structure Pattern where
  /-- The pattern as given, without the exclamation mark. -/
  source : Text
  /-- Whether the pattern excludes what it matches. -/
  negated : Bool
  /-- The globs that match, the pattern itself and what lies below it; a pattern that names the
  root matches everything and has none. -/
  globs : Option (Glob × Glob)
  deriving DecidableEq, Repr

namespace Pattern

/-- The length, in units, that a glob must not exceed. -/
def maxLength : Nat := 65536

/-- What a glob needs at its end to match all that lies below. -/
def below : Text := ['/', '*', '*']

/-- The pattern without slashes at its ends and without a reference to the directory it is in. -/
def body (source : Text) : Text :=
  let body := Text.dropEnd '/' (Text.dropStart '/' source)
  (Text.after? ['.', '/'] body).getD body

/-- A glob from its text. -/
def glob (t : Text) : Except Failure Glob :=
  if t.unitLength > maxLength then .error .patternTooLong
  else (Glob.read t).mapError .badPattern

/-- A pattern from its text, the exclamation mark taken off. -/
def ofSource (negated : Bool) (source : Text) : Except Failure Pattern :=
  let body := body source
  if body = [] ∨ body = ['.'] then .ok ⟨source, negated, none⟩
  else do
    let itself ← glob body
    let under ← glob (body ++ below)
    return ⟨source, negated, some (itself, under)⟩

/-- A pattern from its text. -/
def compile (text : Text) : Except Failure Pattern :=
  match text with
  | '!' :: source => ofSource true source
  | source => ofSource false source

/-- The pattern as given. -/
def text (p : Pattern) : Text := if p.negated then '!' :: p.source else p.source

/-- Whether the pattern matches a path, whatever follows from that. -/
def test (p : Pattern) (path : Text) : Bool :=
  match p.globs with
  | none => true
  | some (self, below) => self.accepts path || below.accepts path

end Pattern

/-- Patterns in order. -/
abbrev PatternSet := List Pattern

namespace PatternSet

/-- A set from its texts. -/
def compile (texts : List Text) : Except Failure PatternSet := texts.mapM Pattern.compile

/-- Whether the set selects a path: the last pattern that matches it decides. -/
def selects (set : PatternSet) (path : Text) : Bool :=
  match set.reverse.find? (·.test path) with
  | some p => !p.negated
  | none => false

end PatternSet

end Lockstep
