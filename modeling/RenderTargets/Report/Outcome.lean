import RenderTargets.Log.Journal
import RenderTargets.Report.Basic
import RenderTargets.Validation.Messenger
/-!
# Reports of outcomes

What an operation did is shown as a record: its answer, or the kind and words of its error, and
beside that what it wrote, where it wrote something. A trap has a kind but no words.
-/

namespace RenderTargets.Report

/-- The fields of a record. -/
abbrev Fields := List (String × Report)

namespace Fields

/-- An answer. -/
def ok {α : Type} [Reported α] (a : α) : Fields := [("ok", report a)]

/-- An error. -/
def failure (e : EngineError) : Fields := [("error", report e.kind), ("message", report e.message)]

/-- How an operation ended. -/
def outcome {α : Type} [Reported α] : Checked EngineError α → Fields
  | .ok a => ok a
  | .error (.error e) => failure e
  | .error .trap => [("error", text "panic")]

/-- How an operation ended that traps where it has no value. -/
def defined {α : Type} [Reported α] (a : Option α) : Fields := outcome (Checked.ofOption a)

/-- The description `d` if `check` finds no defect. -/
def checked {α ε : Type} [Reported α] (cause : ε → InvalidCause) (check : Checked ε Unit) (d : α) :
    Fields :=
  outcome ((check.mapError fun e ↦ EngineError.invalid (cause e)).map fun _ ↦ d)

/-- The field with its values, unless there are none. -/
def unlessEmpty {α : Type} [Reported α] (key : String) (values : List α) : Fields :=
  if values.isEmpty then [] else [(key, report values)]

/-- The field with a text, unless that is empty. -/
def unlessBlank (key words : String) : Fields :=
  if words.isEmpty then [] else [(key, report words)]

/-- The lines of a text, the last of which may lack its end. -/
def linesOf (words : String) : List String :=
  let lines := words.splitOn "\n"
  if lines.getLast? = some "" then lines.dropLast else lines

/-- What was written to the journal. -/
def ofJournal (j : Log.Journal) : Fields :=
  unlessEmpty "log" (j.entries.map fun e ↦ [e.severity.label, e.source, e.message]) ++
    unlessEmpty "printed" (linesOf j.console)

/-- What the messenger wrote on the console and in the usual file. -/
def ofMessenger (m : Validation.Messenger) : Fields :=
  unlessBlank "stderr" m.console ++
    unlessBlank "file" ((m.disk.text? Validation.Output.usualPath).getD "")

end Fields

end RenderTargets.Report
