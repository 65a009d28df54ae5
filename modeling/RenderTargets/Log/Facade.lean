import RenderTargets.Log.Entry
/-!
# Forwarding to a leveled log

Entries can be handed to a log that is filtered by level. Levels and severities correspond one to
one; a filter lets everything through that is at least as severe as it says, or nothing.
-/

namespace RenderTargets.Log

/-- What a leveled log lets through. -/
inductive Filter where
  /-- Nothing. -/
  | off
  /-- Everything at least this severe. -/
  | atLeast (severity : Severity)
  deriving DecidableEq, Inhabited, Repr

namespace Filter

/-- An entry of the severity is let through. -/
def passes : Filter → Severity → Bool
  | off, _ => false
  | atLeast least, s => least.rank ≤ s.rank

/-- The least severity worth handing on. -/
def leastSeverity : Filter → Severity
  | off => .error
  | atLeast s => s

/-- The filter of a name. -/
def ofName? : String → Option Filter
  | "Off" => some off
  | n => (Severity.all.find? (·.name == n)).map atLeast

end Filter

/-- The name of the level of a severity. -/
def Severity.level : Severity → String
  | trace => "TRACE"
  | debug => "DEBUG"
  | info => "INFO"
  | warn => "WARN"
  | error => "ERROR"

/-- What a leveled log receives. -/
structure LevelRecord where
  /-- Name of the level. -/
  level : String
  /-- Who wrote it. -/
  target : String
  /-- What happened. -/
  message : String
  /-- File of the place in the code. -/
  file : Option String
  /-- Line of the place in the code. -/
  line : Option UInt32
  deriving DecidableEq, Inhabited, Repr

/-- The record of an entry, if the filter lets it through. -/
def Entry.forward (e : Entry) (filter : Filter) : Option LevelRecord :=
  if filter.passes e.severity then
    some ⟨e.severity.level, e.source, e.message, e.file, e.line⟩
  else none

end RenderTargets.Log
