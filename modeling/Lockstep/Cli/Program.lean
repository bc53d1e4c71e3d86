import Lockstep.Check.Program
import Lockstep.Cli.Options

/-!
# The program

What the program writes and how it ends.  Violations and lines about the progress
go to the error stream.  The exit code is 0 or 1 as a run finds no violations or
some, and 2 if it fails or is not used as it should be.
-/

namespace Lockstep

namespace Cli

/-- How the program is used. -/
def usage : String :=
  String.intercalate "\n"
    [ "Usage: if-changed [options] [patterns...]",
      "",
      "Checks that files named by \"then-change\" were modified whenever the",
      "\"if-changed\" block declaring them was.",
      "",
      "Options:",
      "  --from-ref <ref>  Revision to compare against (default: HEAD) [env: PRE_COMMIT_FROM_REF]",
      "  --to-ref <ref>    Revision to compare with (default: working copy) " ++
        "[env: PRE_COMMIT_TO_REF]",
      "  -s, --scan        Validate annotation syntax in every matching file",
      "  -w, --warn        Report violations but exit with code 0",
      "  -v, --verbose     Show verbose logging (files being processed)",
      "  -h, --help        Show this help message and exit",
      "",
      "Patterns follow .gitignore rules, matched from the repository root;",
      "a leading \"!\" re-includes what an earlier pattern excluded." ]

/-- What the program leaves behind. -/
structure Outcome where
  exit : Nat
  stdout : String
  stderr : String
  /-- What could be seen of the run. -/
  log : List Event := []

/-- The task that options describe. -/
def Options.task (o : Options) : Check.Task :=
  { range := ⟨o.fromRef, o.toRef⟩, patterns := o.patterns, verbose := o.verbose, scan := o.scan }

/-- What an event writes to the error stream. -/
def errorText : Event → String
  | .progress line => line ++ "\n"
  | .reported v => v.message ++ "\n"
  | .asked _ | .commanded _ => ""

/-- The exit code of a run that found something, or did not. -/
def Options.exitCode (o : Options) (log : List Event) : Nat :=
  if o.warn then 0 else Check.exitCode log

/-- Runs the program with options.  A run that fails ends with the failure and its trace. -/
def runWith (host : Git.Host) (disk : FileTree) (directory : Text) (trace : Failure → String)
    (o : Options) : Outcome :=
  let result := Check.perform host disk directory o.task {}
  let written := String.join (result.log.map errorText)
  match result.outcome with
  | .error (.failed why) =>
    { exit := 2, stdout := "", stderr := written ++ why.headline ++ trace why ++ "\n",
      log := result.log }
  | _ => { exit := o.exitCode result.log, stdout := "", stderr := written, log := result.log }

/-- Runs the program.  The trace of a failure is what the system on which the program runs tells
about the place in the program where it arose. -/
def run (host : Git.Host) (disk : FileTree) (directory : Text) (trace : Failure → String)
    (env : Environment) (arguments : List Text) : Outcome :=
  match parse env arguments with
  | .error e => { exit := 2, stdout := usage ++ "\n", stderr := e.message ++ "\n" }
  | .ok o =>
    if o.help then { exit := 0, stdout := usage ++ "\n", stderr := "" }
    else runWith host disk directory trace o

end Cli

end Lockstep
