import Lockstep.Change.Query

/-!
# Series of queries

What can be asked about a change, as data, so that one session can answer query after
query.  A query that fails does not end the series: the next one finds the session as
the failed one left it.
-/

namespace Lockstep

/-- Something to ask about a change. -/
inductive Query where
  /-- What patterns select.  Somebody may take only so many of the results. -/
  | select (patterns : List Text) (limit : Option Nat)
  /-- Which files of the later snapshot patterns select. -/
  | treePaths (patterns : List Text)
  /-- Whether a range of a file is touched. -/
  | touches (path : Text) (range : LineRange)
  /-- Whether a file is deleted. -/
  | isDeleted (path : Text)
  /-- Whether a file is exempt. -/
  | isExempt (path : Text)
  /-- Where a file lies. -/
  | locate (path : Text)
  deriving DecidableEq, Repr

namespace Query

/-- What a query can give. -/
inductive Answer where
  | selections (found : List Selection)
  | paths (paths : List Text)
  | verdict (holds : Bool)
  | place (path : Text)
  deriving DecidableEq, Repr

/-- Puts a query.  Where no results of a selection are taken, nothing is selected at all. -/
def put (change : Change) : Query → Session Answer
  | .select _ (some 0) => pure (.selections [])
  | .select patterns limit => do
    let found ← Session.select change patterns
    pure (.selections (found.take (limit.getD found.length)))
  | .treePaths patterns => do
    let paths ← Session.treePaths change patterns
    pure (.paths paths)
  | .touches path range => do
    let touched ← Session.touches change path range
    pure (.verdict touched)
  | .isDeleted path => do
    let deleted ← Session.isDeleted change path
    pure (.verdict deleted)
  | .isExempt path => pure (.verdict (change.isExempt path))
  | .locate path => do
    let place ← Session.ofExcept (change.locate path)
    pure (.place place)

/-- Puts queries one after the other in one session, and what comes of each of them. -/
def putAll (change : Change) :
    List Query → SessionState → List (Run.Result SessionState Event Stop Answer)
  | [], _ => []
  | q :: qs, s => q.put change s :: putAll change qs (q.put change s).state

end Query

end Lockstep
