import Lockstep.Cli.Options

/-!
# Reading arguments

Arguments are read from left to right, a row of letters letter by letter.  What one of
them does is said once (`Cli.read_step`), and what follows for all of them is drawn
from that.

* `Cli.read_fuel`: the fuel of the reader never runs out.
* `Cli.read_set`: a switch that is set before reading is set behind it, and has changed
  nothing else.
* `Cli.parse_cons_switch`: so a switch in front of the other arguments is set, and they
  mean what they meant without it, errors included.
-/

namespace Lockstep

namespace Cli

/-! ## Switches -/

/-- Sets a switch in what has been read. -/
def Parsed.set (p : Parsed) (s : Switch) : Parsed := { p with options := p.options.set s }

theorem Options.set_comm (o : Options) (s t : Switch) : (o.set s).set t = (o.set t).set s := by
  cases s <;> cases t <;> rfl

theorem Options.set_setRevision (o : Options) (s : Switch) (value : Text) (r : RevisionOption) :
    (o.set s).setRevision value r = (o.setRevision value r).set s := by
  cases s <;> cases r <;> rfl

theorem Options.fill_set (o : Options) (s : Switch) (env : Environment) :
    (o.set s).fill env = (o.fill env).set s := by
  cases s <;> rfl

theorem Parsed.operand_set (p : Parsed) (s : Switch) (argument : Text) :
    (p.set s).operand argument = (p.operand argument).set s := by
  by_cases h : p.unknown.isSome
  · simp [operand, set, h]
  · cases s <;> simp [operand, set, Options.set, h]

theorem Parsed.foldl_operand_set (p : Parsed) (s : Switch) (arguments : List Text) :
    arguments.foldl operand (p.set s) = (arguments.foldl operand p).set s := by
  induction arguments generalizing p with
  | nil => rfl
  | cons argument arguments ih =>
    rw [List.foldl_cons, List.foldl_cons, operand_set, ih]

/-- How much there is to read: every character, and every argument. -/
def weight (arguments : List Text) : Nat := arguments.flatten.length + arguments.length

theorem weight_cons (argument : Text) (rest : List Text) :
    weight (argument :: rest) = argument.length + weight rest + 1 := by
  simp only [weight, List.flatten_cons, List.length_append, List.length_cons]
  omega

theorem length_of_firstLetter? {argument more : Text} {s : Switch}
    (h : firstLetter? argument = some (s, more)) : argument.length = more.length + 1 := by
  unfold firstLetter? at h
  split at h
  · split at h
    · cases h
      rfl
    · cases h
  · cases h

theorem read_nil (fuel : Nat) (p : Parsed) : read fuel p [] = p := by
  cases fuel <;> rfl

/-- What the first argument does: something that goes well with any switch, and then less is left to
read.  Where the reading ends, nothing is left. -/
theorem read_step (argument : Text) (rest : List Text) :
    ∃ (act : Parsed → Parsed) (left : List Text), (∀ p s, act (p.set s) = (act p).set s) ∧
      weight left < weight (argument :: rest) ∧
      ∀ fuel p, read (fuel + 1) p (argument :: rest) = read fuel (act p) left := by
  have hrest : weight rest < weight (argument :: rest) := by rw [weight_cons]; omega
  by_cases hend : argument = ['-', '-']
  · refine ⟨fun p => rest.foldl Parsed.operand p, [], ?_, ?_, ?_⟩
    · intro p s
      exact p.foldl_operand_set s rest
    · rw [weight_cons]
      exact Nat.succ_pos _
    · intro fuel p
      simp [read, hend, read_nil]
  by_cases hlooks : looksLikeOption argument = true
  · cases hnamed : named? argument with
    | some known =>
      cases known with
      | switch t =>
        refine ⟨fun p => p.set t, rest, ?_, hrest, ?_⟩
        · intro p s
          simp [Parsed.set, Options.set_comm _ s t]
        · intro fuel p
          simp [read, hend, hlooks, hnamed, Parsed.set]
      | revision r =>
        cases rest with
        | nil =>
          refine ⟨id, [], fun _ _ => rfl, hrest, ?_⟩
          intro fuel p
          simp [read, hend, hlooks, hnamed, read_nil]
        | cons value rest =>
          refine ⟨fun p => { p with options := p.options.setRevision value r }, rest, ?_, ?_, ?_⟩
          · intro p s
            simp [Parsed.set, Options.set_setRevision]
          · rw [weight_cons, weight_cons]
            omega
          · intro fuel p
            simp [read, hend, hlooks, hnamed]
    | none =>
      cases hletter : firstLetter? argument with
      | some found =>
        obtain ⟨t, more⟩ := found
        have hlength := length_of_firstLetter? hletter
        refine ⟨fun p => p.set t, more :: rest, ?_, ?_, ?_⟩
        · intro p s
          simp [Parsed.set, Options.set_comm _ s t]
        · rw [weight_cons, weight_cons]
          omega
        · intro fuel p
          simp [read, hend, hlooks, hnamed, hletter, Parsed.set]
      | none =>
        cases hvalue : withValue? argument with
        | some found =>
          obtain ⟨r, value⟩ := found
          refine ⟨fun p => { p with options := p.options.setRevision value r }, rest, ?_, hrest, ?_⟩
          · intro p s
            simp [Parsed.set, Options.set_setRevision]
          · intro fuel p
            simp [read, hend, hlooks, hnamed, hletter, hvalue]
        | none =>
          refine ⟨fun p => { p with unknown := p.unknown.or (some argument) }, rest, ?_, hrest, ?_⟩
          · intro p s
            rfl
          · intro fuel p
            simp [read, hend, hlooks, hnamed, hletter, hvalue]
  · refine ⟨fun p => p.operand argument, rest, ?_, hrest, ?_⟩
    · intro p s
      exact p.operand_set s argument
    · intro fuel p
      simp [read, hend, hlooks]

/-- Fuel for every character and every argument is enough: more does not show. -/
theorem read_fuel {fuel fuel' : Nat} {arguments : List Text} (h : weight arguments ≤ fuel)
    (h' : weight arguments ≤ fuel') (p : Parsed) :
    read fuel p arguments = read fuel' p arguments := by
  induction fuel generalizing fuel' p arguments with
  | zero =>
    cases arguments with
    | nil => rw [read_nil, read_nil]
    | cons argument rest =>
      rw [weight_cons] at h
      cases h
  | succ fuel ih =>
    cases arguments with
    | nil => rw [read_nil, read_nil]
    | cons argument rest =>
      obtain ⟨act, left, -, hless, hread⟩ := read_step argument rest
      obtain ⟨fuel', rfl⟩ : ∃ k, fuel' = k + 1 := Nat.exists_eq_succ_of_ne_zero (by omega)
      rw [hread, hread]
      exact ih (by omega) (by omega) _

/-- A switch set before reading is set behind it. -/
theorem read_set (fuel : Nat) (p : Parsed) (s : Switch) (arguments : List Text) :
    read fuel (p.set s) arguments = (read fuel p arguments).set s := by
  induction fuel generalizing p arguments with
  | zero => rfl
  | succ fuel ih =>
    cases arguments with
    | nil => rfl
    | cons argument rest =>
      obtain ⟨act, left, hact, -, hread⟩ := read_step argument rest
      rw [hread, hread, hact, ih]

section Flag

variable {flag : Text} {s : Switch} (hnamed : named? flag = some (.switch s))
  (hlooks : looksLikeOption flag = true) (env : Environment) (arguments : List Text)

include hnamed hlooks

theorem finish_cons_switch :
    parse.finish env (flag :: arguments) = (parse.finish env arguments).map (·.set s) := by
  have hend : flag ≠ ['-', '-'] := by
    rintro rfl
    cases hnamed
  have hread : read (weight (flag :: arguments)) {} (flag :: arguments) =
      (read (weight arguments) {} arguments).set s := by
    have hfuel : weight arguments ≤ flag.length + weight arguments := Nat.le_add_left _ _
    rw [weight_cons, ← read_fuel hfuel (Nat.le_refl _), ← read_set]
    simp [read, hend, hlooks, hnamed, Parsed.set]
  simp only [weight] at hread
  simp only [parse.finish, hread, Parsed.set]
  cases (read (arguments.flatten.length + arguments.length) {} arguments).unknown with
  | some argument => rfl
  | none => exact congrArg Except.ok (Options.fill_set _ s env)

/-- A switch in front of the other arguments is set, and changes nothing else about them. -/
theorem parse_cons_switch :
    parse env (flag :: arguments) = (parse env arguments).map (·.set s) := by
  have hfinish := finish_cons_switch hnamed hlooks env arguments
  cases arguments with
  | nil =>
    have htakes : takesValue flag = false := by simp [takesValue, hnamed]
    simpa [parse, htakes] using hfinish
  | cons argument rest =>
    unfold parse
    rw [List.getLast?_cons_cons]
    cases hlast : (argument :: rest).getLast? with
    | none => exact hfinish
    | some last =>
      by_cases htakes : takesValue last = true
      · simp [htakes, Except.map]
      · simpa [htakes] using hfinish

end Flag

end Cli

end Lockstep
