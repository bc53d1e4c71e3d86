import Lockstep.Failure
import Lockstep.Run
import Lockstep.Text.Blank

/-!
# Commands

What is asked of git, what comes back, and how a reply is judged.  A job is a
run that notes every command it gives.
-/

namespace Lockstep

namespace Git

/-- A command to git. -/
structure Command where
  arguments : List Text
  /-- The directory it runs in. -/
  directory : Text
  /-- The text that is written to it, if it reads any. -/
  input : Option Text := none
  deriving DecidableEq, Repr

/-- Something that the system reports. -/
structure Trouble where
  /-- The system's code for it, if it has one. -/
  code : Option Text
  message : Text
  deriving DecidableEq, Repr

/-- What comes back from a command. -/
inductive Reply where
  /-- The command could not be started. -/
  | notStarted (why : Trouble)
  /-- The command ended, with an exit code unless it was killed. -/
  | ended (code : Option Int) (stdout stderr : Text) (inputTrouble : Option Trouble)
  deriving DecidableEq, Repr

/-- What a command gave that ran to its end. -/
structure Output where
  code : Int
  stdout : Text
  stderr : Text
  deriving DecidableEq, Repr

/-- Something that replies to commands, the same every time. -/
abbrev Host := Command → Reply

/-- A host on which git cannot be started. -/
def absent : Host := fun _ => .notStarted ⟨some "ENOENT".toList, "spawn git ENOENT".toList⟩

/-- A run that gives commands. -/
abbrev Job := Run Unit Command Failure

/-- How a reply is judged.  A command that does not read its input to the end is none the worse for
it; and one that is killed counts as ended with code 1. -/
def Reply.judge (c : Command) : Reply → Except Failure Output
  | .notStarted why => .error (.other why.message)
  | .ended code stdout stderr inputTrouble =>
    let output : Output := ⟨code.getD 1, stdout, stderr⟩
    match c.input, inputTrouble with
    | some _, some trouble =>
      if trouble.code = some "EPIPE".toList then .ok output else .error (.other trouble.message)
    | _, _ => .ok output

/-- Gives a command and waits for its output. -/
def run (host : Host) (c : Command) : Job Output := do
  Run.note c
  Run.ofExcept id ((host c).judge c)

/-- Gives a command that has to end with code 0. -/
def succeed (host : Host) (c : Command) : Job Text := do
  let output ← run host c
  if output.code = 0 then pure output.stdout
  else Run.stop (.command c.arguments.head? output.code output.stderr.trim)

/-- Arguments from words. -/
def words (ws : List String) : List Text := ws.map (·.toList)

end Git

end Lockstep
