import Lockstep.Cli.Program

/-!
# The command line

The outermost layer takes the arguments, the environment and the directory it is
started in, and hands on what the program writes and its exit code.  It starts no
other program, so a run that needs git ends the way it does where git is missing.
-/

/-- Runs the program with the arguments of the command line. -/
def main (arguments : List String) : IO UInt32 := do
  let fromRef ← IO.getEnv "PRE_COMMIT_FROM_REF"
  let toRef ← IO.getEnv "PRE_COMMIT_TO_REF"
  let directory ← IO.currentDir
  let outcome := Lockstep.Cli.run Lockstep.Git.absent ⟨[]⟩ directory.toString.toList (fun _ => "")
    ⟨fromRef.map (·.toList), toRef.map (·.toList)⟩ (arguments.map (·.toList))
  IO.print outcome.stdout
  IO.eprint outcome.stderr
  return UInt32.ofNat outcome.exit
