import RenderTargets.Validation.Message
/-!
# The validation messenger

The messenger receives the messages of the driver, counts those that its configuration lets through,
and reports them. It counts by weight, and it counts how often the same words came.

Installing a configuration starts all counts anew. Taking it away stops the reports and forgets the
words, but the counts by weight stay for a last report.

## Files

No file is kept open. For every message the file of the current configuration is opened by its path
and made where there is none, and the message is put after what it holds. So a new configuration may
lead to another file and leaves the one before as it is, and a path at which no file can be opened
costs the messages of this time only. The files are the `Disk`.
-/

namespace RenderTargets.Validation

open Log (Style)

/-- How many messages of each weight were counted. -/
structure Stats where
  /-- Errors. -/
  errors : Nat := 0
  /-- Warnings. -/
  warnings : Nat := 0
  /-- Of the weight `info`. -/
  info : Nat := 0
  /-- Of the weight `verbose`. -/
  verbose : Nat := 0
  deriving DecidableEq, Inhabited, Repr

namespace Stats

/-- The count of a weight. -/
def count (s : Stats) : Weight → Nat
  | .error => s.errors
  | .warning => s.warnings
  | .info => s.info
  | .verbose => s.verbose

/-- One message more. -/
def add (s : Stats) : Weight → Stats
  | .error => { s with errors := s.errors + 1 }
  | .warning => { s with warnings := s.warnings + 1 }
  | .info => { s with info := s.info + 1 }
  | .verbose => { s with verbose := s.verbose + 1 }

/-- All messages. -/
def total (s : Stats) : Nat := s.errors + s.warnings + s.info + s.verbose

/-- The counts, the highest weight first, and their sum. -/
def toList (s : Stats) : List Nat := Weight.all.map s.count ++ [s.total]

/-- What a count is called in the report. -/
def countLabel (colors : Bool) : Weight → String
  | .error => Weight.error.style.paint colors "Errors:"
  | .warning => Weight.warning.style.paint colors "Warnings:"
  | .info => Weight.info.style.paint colors "Info:"
  | .verbose => Weight.verbose.style.paint colors "Verbose:"

/-- The line of a count; zero has none. -/
def countLine (s : Stats) (colors : Bool) (w : Weight) : String :=
  if s.count w > 0 then s!"  {countLabel colors w} {s.count w}\n" else ""

/-- The counts for people. -/
def reportText (s : Stats) (colors : Bool) : String :=
  let frame : Style := ⟨.brightBlue, true⟩
  let green : Style := ⟨.green, true⟩
  let white : Style := ⟨.white, true⟩
  if s.total = 0 then "\n" ++ green.paint colors "No validation messages" ++ "\n"
  else
    "\n" ++ frame.paint colors "=== Validation Statistics ===" ++ "\n" ++
      String.join (Weight.all.map (s.countLine colors)) ++
      "  " ++ white.paint colors "Total:" ++ s!" {s.total}\n" ++
      frame.paint colors "=============================" ++ "\n\n"

end Stats

/-- The files that messages are written to. -/
structure Disk where
  /-- The texts of the files there are, by their paths. -/
  texts : List (String × String) := []
  /-- The paths at which no file can be opened. -/
  blocked : List String := []
  deriving DecidableEq, Inhabited, Repr

namespace Disk

/-- The text of the file at a path, if there is one. -/
def text? (d : Disk) (path : String) : Option String := d.texts.lookup path

/-- A file can be opened at a path. -/
def opens (d : Disk) (path : String) : Bool := !d.blocked.contains path

/-- The disk where files can be opened at a path, or cannot. -/
def setOpens (d : Disk) (path : String) (opens : Bool) : Disk :=
  { d with blocked := if opens then d.blocked.filter (· != path) else path :: d.blocked }

/-- The disk with words put after the text of the file at a path, if it can be opened. -/
def append (d : Disk) (path words : String) : Disk :=
  if d.opens path then
    { d with texts := (path, (d.text? path).getD "" ++ words) :: d.texts.filter (·.1 != path) }
  else d

/-- The disk without its files. -/
def clear (d : Disk) : Disk := { d with texts := [] }

end Disk

/-- The state of the messenger. -/
structure Messenger where
  /-- What to report; without it nothing is. -/
  config : Option Config := none
  /-- The messages counted by weight. -/
  stats : Stats := {}
  /-- The words of the messages counted. -/
  seen : List String := []
  /-- The console shows colors. -/
  colors : Bool := true
  /-- Text on the console. -/
  console : String := ""
  /-- The files. -/
  disk : Disk := {}
  deriving DecidableEq, Inhabited, Repr

namespace Messenger

/-- Starts to report. -/
def install (m : Messenger) (config : Config) : Messenger :=
  { m with
    config := some config
    stats := {}
    seen := []
    disk := config.output.path?.elim m.disk (m.disk.setOpens · config.fileOpens) }

/-- Stops to report. -/
def uninstall (m : Messenger) : Messenger := { m with config := none, seen := [] }

/-- From now on files can be opened at a path, or cannot. -/
def setOpens (m : Messenger) (path : String) (opens : Bool) : Messenger :=
  { m with disk := m.disk.setOpens path opens }

/-- The messenger with its texts taken away. -/
def clear (m : Messenger) : Messenger := { m with console := "", disk := m.disk.clear }

/-- Counts a message. -/
def count (m : Messenger) (msg : Message) : Messenger :=
  { m with
    stats := m.stats.add (.ofFlags msg.severity)
    seen := m.seen ++ [msg.wordsText] }

/-- Writes a message that came for the given time. -/
def put (m : Messenger) (output : Output) (msg : Message) (occurrences : Nat) : Messenger :=
  { m with
    console :=
      if output.usesConsole then m.console ++ msg.consoleText occurrences m.colors else m.console
    disk := output.path?.elim m.disk (m.disk.append · (msg.fileText occurrences)) }

/-- Takes a message that came with data. -/
def receive (m : Messenger) (msg : Message) : Messenger :=
  match m.config with
  | none => m
  | some config =>
    if Vulkan.Flags.intersects config.level.flags msg.severity then
      let m := m.count msg
      m.put config.output msg (m.seen.count msg.wordsText)
    else m

end Messenger

end RenderTargets.Validation
