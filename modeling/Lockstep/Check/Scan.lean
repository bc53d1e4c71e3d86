import Lockstep.Block.Scan
import Lockstep.Change.Query
import Lockstep.Disk.Tree

/-!
# Scanning a tree

A scan goes through the files of the later snapshot, changed or not, and reports
markers that are in error and names that are given twice.  A file that holds no
marker at all is passed over without a word, and so are, with a word, a file that
is gone and a directory.
-/

namespace Lockstep

namespace Check

/-- The blocks before the first error, and the errors. -/
def blocksAndErrors : List Finding → List Block × List BlockError
  | [] => ([], [])
  | .broken errors :: _ => ([], errors)
  | .block b :: rest =>
    let (blocks, errors) := blocksAndErrors rest
    (b :: blocks, errors)

/-- What is wrong with the markers of a text. -/
def scanText (file text : Text) : List Violation :=
  let (blocks, errors) := blocksAndErrors (findings text)
  errors.map (.malformed file) ++ (duplicateNames blocks).map (.duplicate file)

/-- Whether a text holds a marker at all. -/
def hasMarker (text : Text) : Bool :=
  Text.includes Marker.opening text || Text.includes Marker.closing text

/-- Scans one file, and looks into its text if that is worth it. -/
def scanFileBy (worth : Text → Bool) (change : Change) (disk : FileTree) (verbose : Bool)
    (file : Text) : Session Unit := do
  let place ← Session.ofExcept (change.locate file)
  match disk.read place with
  | .error (.missing ..) | .error .isDirectory =>
    Session.progress verbose s!"Skipping unreadable file: {String.ofList file}"
  | .error fault => Run.stop (.failed (.file fault))
  | .ok text =>
    if worth text then do
      Session.progress verbose s!"Validating file: {String.ofList file}"
      Session.reportAll (scanText file text)
    else pure ()

/-- Scans files in this way, one by one. -/
def scanFilesBy (worth : Text → Bool) (change : Change) (disk : FileTree) (verbose : Bool) :
    List Text → Session Unit
  | [] => pure ()
  | file :: files => do
    scanFileBy worth change disk verbose file
    scanFilesBy worth change disk verbose files

/-- Scans in this way every file of the later snapshot that patterns select. -/
def scanTreeBy (worth : Text → Bool) (change : Change) (disk : FileTree) (verbose : Bool)
    (patterns : List Text) : Session Unit := do
  let files ← Session.treePaths change patterns
  scanFilesBy worth change disk verbose files

/-- Scans every file of the later snapshot that patterns select.  Texts that hold a marker are worth
looking into. -/
def scanTree (change : Change) (disk : FileTree) (verbose : Bool) (patterns : List Text) :
    Session Unit :=
  scanTreeBy hasMarker change disk verbose patterns

end Check

end Lockstep
