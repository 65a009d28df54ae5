import RenderTargets.Device
/-!
# The arena

The arena is the list of the resources that the application owns, in the order in which they were
made. They are released from the last to the first, so that nothing outlives what it was made from.

Releasing empties the part of the arena first and then tries **every** resource of it, also after
one could not be released; the error is that of the first such one, which is the one tracked last.
-/

namespace RenderTargets.App

/-- The resources owned, the oldest first. -/
abbrev Arena := List ResourceId

namespace Arena

open Log

variable {σ : Type} [GraphicsDevice σ]

/-- The name under which the arena writes to the journal. -/
def source : String := "mrt::resources"

/-- Takes a resource over. -/
def track (id : ResourceId) : Step (Arena × σ) Unit := do
  note .debug source s!"created {id.text}"
  modify fun s ↦ (s.1 ++ [id], s.2)

/-- Releases resources in the order given, and counts them. -/
def releaseEach : List ResourceId → Nat → Option EngineError → Step σ Nat
  | [], n, none => return n
  | [], _, some e => .fail e
  | id :: rest, n, firstError => do
    match ← StepWith.attempt (GraphicsDevice.destroy id : Step σ Unit) with
    | .ok () => releaseEach rest (n + 1) firstError
    | .error e =>
      note .error source s!"failed to release {id.text}: {e.message}"
      releaseEach rest n (firstError.or (some e))

/-- Releases everything tracked after the first `mark` resources. -/
def rollbackTo (mark : Nat) : Step (Arena × σ) Nat := do
  let (owned, _) ← get
  modify fun s ↦ (owned.take mark, s.2)
  StepWith.within .snd (releaseEach (owned.drop mark).reverse 0 none)

/-- Releases everything. -/
def releaseAll : Step (Arena × σ) Nat := rollbackTo 0

end Arena

end RenderTargets.App
