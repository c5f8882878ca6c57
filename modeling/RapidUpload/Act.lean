import RapidUpload.Fault
import RapidUpload.Log

/-!
# Actions

An action on a state ends in a result or a fault, and the state it leaves stands either way.

* `Step σ`: an action on `σ`.
* `Act σ`: an action on `σ` that may also tell what it does.
* `Focus`: a part of a state; `Act.within` runs an action on the part.
-/

namespace RapidUpload

/-- An action on a state that ends in a result or a fault. -/
abbrev Step (σ : Type) := EStateM Fault σ

/-- A state with the lines told so far. -/
structure Logged (σ : Type) where
  state : σ
  log : Array Log.Line

/-- An action that may also tell what it does. -/
abbrev Act (σ : Type) := Step (Logged σ)

/-- A part of a state. -/
structure Focus (σ τ : Type) where
  get : σ → τ
  set : τ → σ → σ

/-- The first of two. -/
def Focus.first {σ τ : Type} : Focus (σ × τ) σ := ⟨Prod.fst, fun a s => (a, s.2)⟩

/-- The second of two. -/
def Focus.second {σ τ : Type} : Focus (σ × τ) τ := ⟨Prod.snd, fun b s => (s.1, b)⟩

/-- One part and another one. -/
def Focus.both {σ τ υ : Type} (f : Focus σ τ) (g : Focus σ υ) : Focus σ (τ × υ) :=
  ⟨fun s => (f.get s, g.get s), fun p s => g.set p.2 (f.set p.1 s)⟩

/-- Runs a silent action on a part of the state. -/
def Step.within {σ τ β : Type} (f : Focus σ τ) (a : Step τ β) : Step σ β := fun s =>
  match a (f.get s) with
  | .ok b t => .ok b (f.set t s)
  | .error e t => .error e (f.set t s)

namespace Act

variable {σ τ β : Type}

/-- Runs an action on a part of the state. -/
def within (f : Focus σ τ) (a : Act τ β) : Act σ β := fun s =>
  match a ⟨f.get s.state, s.log⟩ with
  | .ok b t => .ok b ⟨f.set t.state s.state, t.log⟩
  | .error e t => .error e ⟨f.set t.state s.state, t.log⟩

/-- A silent action. -/
def quiet (a : Step σ β) : Act σ β := fun s =>
  match a s.state with
  | .ok b t => .ok b ⟨t, s.log⟩
  | .error e t => .error e ⟨t, s.log⟩

/-- Tells a line. -/
def tell (level : Log.Level) (channel : Log.Channel) (pieces : List Log.Piece) :
    Act σ Unit :=
  modify fun s => { s with log := s.log.push ⟨level, channel, pieces⟩ }

/-- The state. -/
def look : Act σ σ := do
  return (← get).state

/-- Changes the state. -/
def change (f : σ → σ) : Act σ Unit :=
  modify fun s => { s with state := f s.state }

/-- Ends in a fault. -/
def fail (e : Fault) : Act σ β := throw e

/-- The result of a check. -/
def ofExcept : Except Fault β → Act σ β
  | .ok b => pure b
  | .error e => throw e

/-- The outcome of an action as a value; the state it leaves stands. -/
def outcome (a : Act σ β) : Act σ (Except Fault β) := fun s =>
  match a s with
  | .ok b s => .ok (.ok b) s
  | .error e s => .ok (.error e) s

end Act

end RapidUpload
