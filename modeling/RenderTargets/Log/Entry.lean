import RenderTargets.Log.Style
import RenderTargets.Log.Timestamp
/-!
# Log entries

An entry says how much it matters, by one of five severities, who wrote it and what happened, and
perhaps at which line of which file. It is written as one line: time, severity and source in
brackets, then the message, then the place in parentheses if both its file and its line are known.

## Two written forms

`Entry.plain` has no colors; `Entry.styledBy` has severity and source in their styles, as a painter
writes them. Both take the time as text, since an entry that is written at once has no other use for
it.
-/

namespace RenderTargets.Log

/-! ### Severities -/

/-- The weight of an entry. -/
inductive Severity where
  /-- Every command. -/
  | trace
  /-- For development. -/
  | debug
  /-- Events that matter. -/
  | info
  /-- Possible trouble. -/
  | warn
  /-- Failures. -/
  | error
  deriving DecidableEq, Inhabited, Repr

namespace Severity

/-- Every severity, lightest first. -/
def all : List Severity := [trace, debug, info, warn, error]

/-- The name of the severity. -/
def name : Severity → String
  | trace => "Trace"
  | debug => "Debug"
  | info => "Info"
  | warn => "Warn"
  | error => "Error"

/-- Position in the order. -/
def rank : Severity → Nat
  | trace => 0
  | debug => 1
  | info => 2
  | warn => 3
  | error => 4

/-- The name in log lines, always five characters. -/
def label : Severity → String
  | trace => "TRACE"
  | debug => "DEBUG"
  | info => "INFO "
  | warn => "WARN "
  | error => "ERROR"

end Severity

/-! ### Entries -/

/-- Something that happened. -/
structure Entry where
  /-- How much it matters. -/
  severity : Severity
  /-- Who wrote it. -/
  source : String
  /-- What happened. -/
  message : String
  /-- File of the place in the code. -/
  file : Option String := none
  /-- Line of the place in the code. -/
  line : Option UInt32 := none
  deriving DecidableEq, Inhabited, Repr

/-- The color of a severity. -/
def Severity.style : Severity → Style
  | trace => ⟨.brightBlack, false⟩
  | debug => ⟨.cyan, false⟩
  | info => ⟨.green, false⟩
  | warn => ⟨.yellow, false⟩
  | error => ⟨.red, true⟩

/-- The color of sources. -/
def sourceStyle : Style := ⟨.brightBlue, false⟩

namespace Entry

/-- The place in the code, if file and line are known. -/
def place? (e : Entry) : Option String :=
  match e.file, e.line with
  | some f, some n => some s!"{f}:{n.toNat}"
  | _, _ => none

/-- The line without colors, for a given time. -/
def plain (e : Entry) (time : String) : String :=
  match e.place? with
  | some p => s!"[{time}] [{e.severity.label}] [{e.source}] {e.message} ({p})"
  | none => s!"[{time}] [{e.severity.label}] [{e.source}] {e.message}"

/-- The line as a terminal shows it, for a given time, with or without colors. -/
def styledBy (paint : Painter) (e : Entry) (colors : Bool) (time : String) : String :=
  let severity := paint e.severity.style colors e.severity.label
  let source := paint sourceStyle colors e.source
  match e.place? with
  | some p => s!"[{time}] [{severity}] [{source}] {e.message} ({p})\n"
  | none => s!"[{time}] [{severity}] [{source}] {e.message}\n"

/-- The line in escape sequences. -/
def styled : Entry → (colors : Bool) → (time : String) → String := styledBy Style.paint

end Entry

end RenderTargets.Log
