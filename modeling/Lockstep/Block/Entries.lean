import Lockstep.Text.Units
import Lockstep.Block.Marker

/-!
# The list of a closing marker

A closing marker carries a list in parentheses.  Its entries are divided by
commas or by ends of lines, and the list may run over several lines, each
behind a comment leader.  A backslash takes the next character literally; at the
end of a line it joins the entry to the next line.

The list is read one character at a time.  `Entries` is what has been read so
far; `Entries.Place` says what stands directly before the next character.  A run
of ordinary characters begins with one that is not blank, and loses the blanks
at its end when something other than an ordinary character ends it.
-/

namespace Lockstep

/-- How far a list has been read. -/
structure Entries where
  /-- The entries that are complete, the last one first. -/
  done : List Obligation := []
  /-- The part of the entry at hand that is settled. -/
  buffer : Text := []
  /-- The line on which the entry at hand began. -/
  entryLine : Option Nat := none

namespace Entries

/-- The obligation that an entry states: a pattern, and behind a colon a name. -/
def obligation (line : Nat) (entry : Text) : Obligation :=
  match Text.cutAt? ':' entry with
  | none => { pattern := entry, name := none, line }
  | some (pattern, name) => { pattern := pattern.trim, name := some name.trim, line }

/-- What stands directly before the next character of a line. -/
inductive Place where
  /-- Nothing, or nothing but blanks. -/
  | idle
  /-- A run of ordinary characters. -/
  | run (chars : Text)
  /-- A backslash that waits for the character it protects. -/
  | escape

/-- The run at hand. -/
def Place.chars : Place → Text
  | .run chars => chars
  | _ => []

/-- What one line does to a list. -/
inductive Progress where
  /-- The list goes on with the next line. -/
  | more (entries : Entries)
  /-- The list is closed. -/
  | closed (obligations : List Obligation)
  /-- The list is in error. -/
  | failed (error : BlockError)

/-- Notes that the entry at hand has begun, on the line `here` unless it had begun before. -/
def begin (here : Nat) (e : Entries) : Entries := { e with entryLine := e.entryLine.or (some here) }

/-- Settles the run at hand. -/
def settle (run : Text) (e : Entries) : Entries := { e with buffer := e.buffer ++ run.trimEnd }

/-- Adds the entry at hand to the complete ones. -/
def push (marker : Nat) (e : Entries) : Entries :=
  { done := obligation marker e.buffer :: e.done }

/-- Reads a line, or the rest of one.  `marker` is the line of the closing marker and `here` the
line at hand. -/
def readLine (marker here : Nat) (e : Entries) : Place → Text → Progress
  | .run run, [] => .more ((e.settle run).push marker)
  | _, [] => .more e
  | .escape, c :: rest =>
    -- A character of two units needs no protection and stays what it is.
    if Text.isSingleUnit c then readLine marker here { e with buffer := e.buffer ++ [c] } .idle rest
    else readLine marker here e (.run [c]) rest
  | place, c :: rest =>
    if place.chars.isEmpty && Text.isBlank c then readLine marker here e .idle rest
    else
      let e := e.begin here
      if c = ',' then
        let e := e.settle place.chars
        if e.buffer.isEmpty then .failed (.emptyEntry (e.entryLine.getD here) marker)
        else readLine marker here (e.push marker) .idle rest
      else if c = ')' then
        let e := e.settle place.chars
        .closed (if e.buffer.isEmpty then e.done else (e.push marker).done).reverse
      else if c = '\\' then readLine marker here (e.settle place.chars) .escape rest
      else readLine marker here e (.run (place.chars ++ [c])) rest

/-- Reads on through the lines behind line `here`.  On success the obligations come with the
number of the last line read and the lines behind it. -/
def readLines (marker : Nat) (e : Entries) (here : Nat) :
    List Text → Except BlockError (List Obligation × Nat × List Text)
  | [] => .error (.unclosedList marker)
  | line :: rest =>
    match readLine marker (here + 1) e .idle (Marker.dropLeader line) with
    | .more e => readLines marker e (here + 1) rest
    | .closed obligations => .ok (obligations, here + 1, rest)
    | .failed error => .error error

/-- Reads the list behind a closing marker on line `marker`: `rest` is the rest of that line, and
`lines` are the lines behind it. -/
def read (marker : Nat) (rest : Text) (lines : List Text) :
    Except BlockError (List Obligation × Nat × List Text) :=
  match rest.trimStart with
  | '(' :: inside =>
    match readLine marker marker {} .idle inside with
    | .more e => readLines marker e marker lines
    | .closed obligations => .ok (obligations, marker, lines)
    | .failed error => .error error
  | _ => .error (.noList marker)

end Entries

end Lockstep
