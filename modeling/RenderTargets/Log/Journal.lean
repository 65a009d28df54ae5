import RenderTargets.Error
import RenderTargets.Log.Entry
/-!
# The journal

All parts of the engine write to one journal. Entries below its least severity are dropped; the
others are kept, or written to the console.

A part of the engine only needs to know that its state has a journal in it, which is the class
`HasJournal`.
-/

namespace RenderTargets.Log

/-- Where entries go. -/
inductive Sink where
  /-- They are kept. -/
  | memory
  /-- They are written to the console. -/
  | console
  deriving DecidableEq, Inhabited, Repr

/-- The state of logging. -/
structure Journal where
  /-- Entries below this are dropped. -/
  least : Severity := .trace
  /-- Where the others go. -/
  sink : Sink := .memory
  /-- The console shows colors. -/
  colors : Bool := true
  /-- What the console shows as the time of an entry. -/
  clock : String := "TIME"
  /-- Entries kept, the oldest first. -/
  entries : List Entry := []
  /-- Text written to the console. -/
  console : String := ""
  deriving Inhabited, Repr

namespace Journal

/-- The journal after an entry. -/
def add (j : Journal) (e : Entry) : Journal :=
  if e.severity.rank < j.least.rank then j
  else
    match j.sink with
    | .memory => { j with entries := j.entries ++ [e] }
    | .console => { j with console := j.console ++ e.styled j.colors j.clock }

/-- The journal after some text was written to the console past all entries. -/
def print (j : Journal) (text : String) : Journal := { j with console := j.console ++ text }

/-- The journal with what was written so far taken away. -/
def clear (j : Journal) : Journal := { j with entries := [], console := "" }

end Journal

/-- A state with a journal in it. -/
class HasJournal (σ : Type) where
  /-- Where the journal is. -/
  journal : Lens σ Journal

instance : HasJournal Journal := ⟨.whole⟩

instance {α σ : Type} [HasJournal σ] : HasJournal (α × σ) :=
  ⟨Lens.snd.comp HasJournal.journal⟩

/-- Writes an entry. -/
def write {σ : Type} [HasJournal σ] (e : Entry) : Step σ Unit :=
  modify fun s ↦
    let l : Lens σ Journal := HasJournal.journal
    l.set ((l.get s).add e) s

/-- Writes an entry of the given severity, source and message. -/
def note {σ : Type} [HasJournal σ] (severity : Severity) (source message : String) : Step σ Unit :=
  write { severity, source, message }

/-- Writes why a command is refused and refuses it. -/
def refuse {σ α : Type} [HasJournal σ] (source : String) (cause : BackendCause) : Step σ α := do
  note .error source cause.message
  .fail (.backend cause)

end RenderTargets.Log
