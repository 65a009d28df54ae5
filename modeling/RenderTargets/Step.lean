/-!
# Steps

An operation of a device or of the application changes a state and ends in one of three ways: it
answers, it fails with an error of its domain, or it **traps**, which is what arithmetic does when a
result leaves its word and what an index does when it leaves its list.

## The state survives a failure

A step is a function from the state before to an answer *and* the state after, also when it fails:
what an operation did before its failure stays done. Undoing is never implicit; `StepWith.undoing`
and `StepWith.undoingOnError` say where it happens.

## Errors can be looked at, traps cannot

`StepWith.attempt` turns an error into a value. A trap passes through it, so no operation can go on
after one.
-/

namespace RenderTargets

/-- The two ways of ending without an answer. -/
inductive Fault (ε : Type) where
  /-- An error of the domain, for the caller to handle. -/
  | error (e : ε)
  /-- Arithmetic or indexing out of range; nothing handles it. -/
  | trap
  deriving Repr, DecidableEq

namespace Fault

variable {ε ε' : Type}

/-- The fault with its error seen from another domain. -/
def map (f : ε → ε') : Fault ε → Fault ε'
  | error e => error (f e)
  | trap => trap

end Fault

/-- A computation without state that may fail or trap. -/
abbrev Checked (ε α : Type) := Except (Fault ε) α

namespace Checked

variable {ε ε' α : Type}

/-- The value, or a trap if there is none. -/
def ofOption : Option α → Checked ε α
  | some a => .ok a
  | none => .error .trap

/-- A result with errors only, none of which is a trap. -/
def ofExcept : Except ε α → Checked ε α
  | .ok a => .ok a
  | .error e => .error (.error e)

/-- The computation with its errors seen from another domain. -/
def mapError (f : ε → ε') : Checked ε α → Checked ε' α
  | .ok a => .ok a
  | .error e => .error (e.map f)

end Checked

/-- A read and write view of a part `τ` of a state `σ`. -/
structure Lens (σ τ : Type) where
  /-- The part. -/
  get : σ → τ
  /-- The state with the part replaced. -/
  set : τ → σ → σ

namespace Lens

variable {σ τ υ : Type}

/-- The state as a part of itself. -/
def whole : Lens σ σ := ⟨id, fun s _ ↦ s⟩

/-- The first half of a pair. -/
def fst : Lens (σ × τ) σ := ⟨Prod.fst, fun s p ↦ (s, p.2)⟩

/-- The second half of a pair. -/
def snd : Lens (σ × τ) τ := ⟨Prod.snd, fun t p ↦ (p.1, t)⟩

/-- A part of a part. -/
def comp (l : Lens σ τ) (m : Lens τ υ) : Lens σ υ :=
  ⟨fun s ↦ m.get (l.get s), fun u s ↦ l.set (m.set u (l.get s)) s⟩

/-- A part of the first half, beside the second half. -/
def beside (l : Lens σ τ) : Lens (σ × υ) (τ × υ) :=
  ⟨fun p ↦ (l.get p.1, p.2), fun q p ↦ (l.set q.1 p.1, q.2)⟩

end Lens

/-- A computation on a state `σ` with errors `ε`. -/
abbrev StepWith (ε σ α : Type) := EStateM (Fault ε) σ α

namespace StepWith

variable {ε σ τ α : Type}

/-- A checked computation as a step that leaves the state alone. -/
def ofChecked : Checked ε α → StepWith ε σ α
  | .ok a => pure a
  | .error e => throw e

/-- The step that traps. -/
def trap : StepWith ε σ α := throw .trap

/-- The step that fails with `e`. -/
def fail (e : ε) : StepWith ε σ α := throw (.error e)

/-- The value, or a trap if there is none. -/
def orTrap (a : Option α) : StepWith ε σ α := ofChecked (Checked.ofOption a)

/-- The value, or the error `e` if there is none. -/
def orFail (e : ε) : Option α → StepWith ε σ α
  | some a => pure a
  | none => fail e

/-- Runs a step on a part of the state. The part is written back however the step ends. -/
def within (l : Lens σ τ) (x : StepWith ε τ α) : StepWith ε σ α := fun s ↦
  match x (l.get s) with
  | .ok a t => .ok a (l.set t s)
  | .error e t => .error e (l.set t s)

/-- Turns an error into a value; traps pass through. -/
def attempt (x : StepWith ε σ α) : StepWith ε σ (Except ε α) := fun s ↦
  match x s with
  | .ok a s => .ok (.ok a) s
  | .error (.error e) s => .ok (.error e) s
  | .error .trap s => .error .trap s

/-- Runs `undo` after any fault of `x` and then passes the fault on. A fault of `undo` itself takes
its place. -/
def undoing (x : StepWith ε σ α) (undo : StepWith ε σ Unit) : StepWith ε σ α := fun s ↦
  match x s with
  | .ok a s => .ok a s
  | .error e s =>
    match undo s with
    | .ok _ s => .error e s
    | .error e s => .error e s

/-- Runs `undo` after an error of `x`, but not after a trap, and then passes the fault on. -/
def undoingOnError (x : StepWith ε σ α) (undo : StepWith ε σ Unit) : StepWith ε σ α := fun s ↦
  match x s with
  | .ok a s => .ok a s
  | .error .trap s => .error .trap s
  | .error (.error e) s =>
    match undo s with
    | .ok _ s => .error (.error e) s
    | .error e s => .error e s

end StepWith

instance {ε σ : Type} : MonadLift (Except (Fault ε)) (EStateM (Fault ε) σ) := ⟨StepWith.ofChecked⟩

end RenderTargets
