import Lockstep.Disk.Fault
import Lockstep.Path
import Lockstep.Text.Utf8

/-!
# Trees of files

The files that a run can look at.  A path is followed one name at a time, from
the root of the file system on, and the first name that leads nowhere decides
what is wrong with the path: it is too long, or there is nothing of that name, or
what there is has nothing below it.
-/

namespace Lockstep

/-- What can stand at a path. -/
inductive FileNode where
  | file (text : Text)
  | directory
  deriving DecidableEq, Repr

/-- Files and directories by the names on the way to them.  The directories on the way to an entry
are there as well. -/
structure FileTree where
  entries : List (List Text × FileNode)
  deriving DecidableEq, Repr

namespace FileTree

/-- The most bytes that a name may have. -/
def maxName : Nat := 255

/-- The names on a path. -/
def names (path : Text) : List Text := (Text.splitOn '/' path).filter (!·.isEmpty)

/-- A tree with a directory at `root` and what is given below it. -/
def ofFiles (root : Text) (files : List (Text × FileNode)) : FileTree :=
  ⟨(names root, .directory) :: files.map fun (path, node) => (names (Path.join root path), node)⟩

/-- What stands at the end of some names.  Of two entries for one place the later one counts. -/
def at? (tree : FileTree) (path : List Text) : Option FileNode :=
  match tree.entries.reverse.find? (·.1 = path) with
  | some (_, node) => some node
  | none =>
    if tree.entries.any fun (names, _) => path.isPrefixOf names then some .directory else none

/-- Follows the names of a path, of which `done` have been followed to a directory. -/
def follow (tree : FileTree) (access : FileAccess) (path : Text) (done : List Text) :
    List Text → Except FileFault FileNode
  | [] => .ok .directory
  | name :: rest =>
    if maxName < (Utf8.encode name).length then .error (.nameTooLong access path)
    else
      match tree.at? (done ++ [name]) with
      | none => .error (.missing access path)
      | some .directory => tree.follow access path (done ++ [name]) rest
      | some (.file text) =>
        if rest.isEmpty ∧ path.getLast? ≠ some '/' then .ok (.file text)
        else .error (.notDirectory access path)

/-- What stands at an absolute path. -/
def find (tree : FileTree) (access : FileAccess) (path : Text) : Except FileFault FileNode :=
  tree.follow access path [] (names path)

/-- The text of the file at an absolute path. -/
def read (tree : FileTree) (path : Text) : Except FileFault Text :=
  match tree.find .opening path with
  | .error fault => .error fault
  | .ok .directory => .error .isDirectory
  | .ok (.file text) => .ok text

/-- Whether there is a directory at an absolute path.  A path that leads nowhere leads to none. -/
def isDirectory (tree : FileTree) (path : Text) : Except FileFault Bool :=
  match tree.find .inspecting path with
  | .error (.missing ..) | .error (.notDirectory ..) => .ok false
  | .error fault => .error fault
  | .ok node => .ok (node = .directory)

end FileTree

end Lockstep
