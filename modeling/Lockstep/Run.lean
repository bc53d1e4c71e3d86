/-!
# Runs

A run carries a state, leaves a log behind and may stop before its time.  Where
it stops, the state and the log are kept as they are then.  A run cannot look at
its own log: running two things one after the other leaves the two logs one
behind the other.
-/

namespace Lockstep

/-- What a run leaves behind. -/
structure Run.Result (σ ε ι α : Type) where
  /-- The value of the run, or why it stopped. -/
  outcome : Except ι α
  /-- The state at the end. -/
  state : σ
  /-- What was noted, in order. -/
  log : List ε

/-- A run over states `σ` that notes entries `ε` and may stop for a reason `ι`. -/
def Run (σ ε ι α : Type) : Type := σ → Run.Result σ ε ι α

namespace Run

variable {σ ε ι α β : Type}

/-- The run that does nothing and has a value. -/
protected def pure (a : α) : Run σ ε ι α := fun s => ⟨.ok a, s, []⟩

/-- One run, and then another that depends on its value. -/
protected def bind (m : Run σ ε ι α) (f : α → Run σ ε ι β) : Run σ ε ι β := fun s =>
  let first := m s
  match first.outcome with
  | .error why => ⟨.error why, first.state, first.log⟩
  | .ok a =>
    let second := f a first.state
    ⟨second.outcome, second.state, first.log ++ second.log⟩

instance : Monad (Run σ ε ι) where
  pure := Run.pure
  bind := Run.bind

/-- Stops. -/
def stop (why : ι) : Run σ ε ι α := fun s => ⟨.error why, s, []⟩

/-- Notes an entry. -/
def note (entry : ε) : Run σ ε ι Unit := fun s => ⟨.ok (), s, [entry]⟩

/-- Notes entries. -/
def noteAll (entries : List ε) : Run σ ε ι Unit := fun s => ⟨.ok (), s, entries⟩

/-- The state. -/
def get : Run σ ε ι σ := fun s => ⟨.ok s, s, []⟩

/-- Changes the state. -/
def modify (f : σ → σ) : Run σ ε ι Unit := fun s => ⟨.ok (), f s, []⟩

/-- Goes on with a value, or stops. -/
def ofExcept (f : κ → ι) (x : Except κ α) : Run σ ε ι α :=
  match x with
  | .ok a => Run.pure a
  | .error why => stop (f why)

end Run

end Lockstep
