import Lockstep.Text.Basic

/-!
# Paths

Paths are texts with slashes between their components.  Joining two paths puts a
slash between them and resolves what can be resolved: empty components and single
dots go, and two dots take back the component before them.  Above the root of an
absolute path there is nothing, so two dots there go too; a slash at the end stays.
-/

namespace Lockstep

namespace Path

/-- Puts slashes between components. -/
def ofComponents : List Text → Text
  | [] => []
  | [c] => c
  | c :: cs => c ++ '/' :: ofComponents cs

/-- Adds a component to those before it, the last one first. -/
def addComponent (absolute : Bool) (before : List Text) (c : Text) : List Text :=
  if c = [] ∨ c = ['.'] then before
  else if c = ['.', '.'] then
    match before with
    | last :: earlier => if last = ['.', '.'] then c :: before else earlier
    | [] => if absolute then [] else [c]
  else c :: before

/-- The components that are left when all is resolved. -/
def resolve (absolute : Bool) (components : List Text) : List Text :=
  (components.foldl (addComponent absolute) []).reverse

/-- The path with everything resolved.  The empty path is the directory at hand, a dot. -/
def normalize (path : Text) : Text :=
  let absolute := path.head? = some '/'
  let closed := path.getLast? = some '/'
  let body := ofComponents (resolve absolute (Text.splitOn '/' path))
  match path, body with
  | [], _ => ['.']
  | _, [] => if absolute then ['/'] else if closed then ['.', '/'] else ['.']
  | _, body =>
    let body := if closed then body ++ ['/'] else body
    if absolute then '/' :: body else body

/-- The second path as seen from the first.  An empty path adds nothing. -/
def join (a b : Text) : Text :=
  normalize (ofComponents ([a, b].filter (!·.isEmpty)))

/-- The directory that a path lies in, not resolved. -/
def directory (path : Text) : Text :=
  let absolute := path.head? = some '/'
  match ((path.reverse.dropWhile (· = '/')).dropWhile (· ≠ '/')) with
  | [] | [_] => if absolute then ['/'] else ['.']
  | _ :: before => if absolute ∧ before.length = 1 then ['/', '/'] else before.reverse

end Path

end Lockstep
