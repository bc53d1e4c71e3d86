import Lockstep.Cli.Suggestion

/-!
# Options of the command line

The arguments of the program, read from left to right.  An option may be given by
its long name, by its letter, or by its letter in a row of letters; a value stands
behind the option or behind an equals sign.  Everything else is a pattern.  Two
dashes end the options.
-/

namespace Lockstep

namespace Cli

/-- An option that is on or off. -/
inductive Switch where
  | scan
  | warn
  | verbose
  | help
  deriving DecidableEq, Repr

/-- An option that takes a revision. -/
inductive RevisionOption where
  | fromRef
  | toRef
  deriving DecidableEq, Repr

/-- An option. -/
inductive KnownOption where
  | switch (s : Switch)
  | revision (r : RevisionOption)
  deriving DecidableEq, Repr

/-- What the arguments say. -/
structure Options where
  /-- Whether violations leave the exit code alone. -/
  warn : Bool := false
  /-- Whether to show how the program is used. -/
  help : Bool := false
  /-- Whether to write about the progress. -/
  verbose : Bool := false
  /-- Whether to scan the tree instead of checking the change. -/
  scan : Bool := false
  /-- The older revision. -/
  fromRef : Option Text := none
  /-- The newer revision. -/
  toRef : Option Text := none
  /-- The patterns of the files to look at. -/
  patterns : List Text := []
  deriving DecidableEq, Repr

/-- What the environment says where the arguments say nothing. -/
structure Environment where
  fromRef : Option Text := none
  toRef : Option Text := none
  deriving DecidableEq, Repr

/-- What can be wrong with the arguments. -/
inductive UsageError where
  /-- An option that takes a value has none. -/
  | missingValue (argument : Text)
  /-- An option is not known. -/
  | unknownOption (argument : Text)
  deriving DecidableEq, Repr

/-! ## Names -/

/-- The names of the options without their dashes, in the order in which they are suggested. -/
def optionNames : List Text :=
  ["from-ref", "to-ref", "scan", "warn", "verbose", "help"].map (·.toList)

/-- The option that an argument is the name of. -/
def named? (argument : Text) : Option KnownOption :=
  match String.ofList argument with
  | "--from-ref" => some (.revision .fromRef)
  | "--to-ref" => some (.revision .toRef)
  | "--scan" | "-s" => some (.switch .scan)
  | "--warn" | "-w" => some (.switch .warn)
  | "--verbose" | "-v" => some (.switch .verbose)
  | "--help" | "-h" => some (.switch .help)
  | _ => none

/-- The error in words. -/
def UsageError.message : UsageError → String
  | .missingValue argument => s!"Missing value for {String.ofList argument}"
  | .unknownOption argument =>
    let question :=
      match argument with
      | '-' :: '-' :: name => suggestion name optionNames
      | _ => ""
    s!"error: unknown option '{String.ofList argument}'{question}"

/-! ## Reading -/

/-- Sets a switch. -/
def Options.set (o : Options) : Switch → Options
  | .scan => { o with scan := true }
  | .warn => { o with warn := true }
  | .verbose => { o with verbose := true }
  | .help => { o with help := true }

/-- Sets a revision. -/
def Options.setRevision (o : Options) (value : Text) : RevisionOption → Options
  | .fromRef => { o with fromRef := some value }
  | .toRef => { o with toRef := some value }

/-- Whether an argument looks like an option. -/
def looksLikeOption (argument : Text) : Bool :=
  match argument with
  | '-' :: _ :: _ => true
  | _ => false

/-- The switch at the start of a row of letters, and the row without it. -/
def firstLetter? (argument : Text) : Option (Switch × Text) :=
  match argument with
  | '-' :: letter :: next :: rest =>
    match named? ['-', letter] with
    | some (.switch s) => some (s, '-' :: next :: rest)
    | _ => none
  | _ => none

/-- The option and the value in an argument that holds both, an equals sign between them. -/
def withValue? (argument : Text) : Option (RevisionOption × Text) :=
  match Text.cutAt? '=' argument with
  | some (name, value) =>
    match named? name with
    | some (.revision r) => some (r, value)
    | _ => none
  | none => none

/-- The first argument that is an unknown option, and the options without the patterns behind it. -/
structure Parsed where
  options : Options := {}
  unknown : Option Text := none
  deriving DecidableEq, Repr

/-- Adds an argument that is no option. -/
def Parsed.operand (p : Parsed) (argument : Text) : Parsed :=
  if p.unknown.isSome then p
  else { p with options := { p.options with patterns := p.options.patterns ++ [argument] } }

/-- Reads arguments.  A row of letters is read letter by letter, so there is fuel for every
character. -/
def read : (fuel : Nat) → Parsed → List Text → Parsed
  | 0, p, _ => p
  | _, p, [] => p
  | fuel + 1, p, argument :: rest =>
    if argument = ['-', '-'] then rest.foldl Parsed.operand p
    else if !looksLikeOption argument then read fuel (p.operand argument) rest
    else
      match named? argument, rest with
      | some (.switch s), _ => read fuel { p with options := p.options.set s } rest
      | some (.revision r), value :: rest =>
        read fuel { p with options := p.options.setRevision value r } rest
      | some (.revision _), [] => p
      | none, _ =>
        match firstLetter? argument, withValue? argument with
        | some (s, more), _ => read fuel { p with options := p.options.set s } (more :: rest)
        | none, some (r, value) =>
          read fuel { p with options := p.options.setRevision value r } rest
        | none, none => read fuel { p with unknown := p.unknown.or (some argument) } rest

/-- Fills in what the environment says. -/
def Options.fill (o : Options) (env : Environment) : Options :=
  { o with fromRef := o.fromRef.or env.fromRef, toRef := o.toRef.or env.toRef }

/-- Whether an argument is the name of an option that takes a value. -/
def takesValue (argument : Text) : Bool :=
  match named? argument with
  | some (.revision _) => true
  | _ => false

/-- What the arguments and the environment say.  A value that is missing at the end is reported
before anything else. -/
def parse (env : Environment) (arguments : List Text) : Except UsageError Options :=
  match arguments.getLast? with
  | some last => if takesValue last then .error (.missingValue last) else finish
  | none => finish
where
  /-- Reads all arguments. -/
  finish : Except UsageError Options :=
    let fuel := arguments.flatten.length + arguments.length
    let parsed := read fuel {} arguments
    match parsed.unknown with
    | some argument => .error (.unknownOption argument)
    | none => .ok (parsed.options.fill env)

end Cli

end Lockstep
