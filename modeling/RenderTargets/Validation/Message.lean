import RenderTargets.Log.Style
import RenderTargets.Validation.Config
import RenderTargets.Vulkan.Enum
/-!
# Messages of the validation layer

The driver sends a message with flags for its severity and its type, and two strings that end at the
first zero byte. Severity flags may be combined; a message **weighs** as much as the highest of
them, and one without a known flag counts as verbose.
-/

namespace RenderTargets.Validation

open Vulkan (Flags)
open Log (Style)

/-- How much a message matters. -/
inductive Weight where
  /-- Something is wrong. -/
  | error
  /-- Something may be wrong. -/
  | warning
  /-- Something happened. -/
  | info
  /-- Anything else. -/
  | verbose
  deriving DecidableEq, Inhabited, Repr

namespace Weight

/-- Every weight, the highest first. -/
def all : List Weight := [error, warning, info, verbose]

/-- The severity flag of a weight. -/
def flag : Weight → Flags
  | error => 0x1000
  | warning => 0x100
  | info => 0x10
  | verbose => 0x1

/-- The weight of the highest of some severity flags. -/
def ofFlags (severity : Flags) : Weight :=
  ([error, warning, info].find? fun w ↦ Flags.contains severity w.flag).getD verbose

/-- The name in reports. -/
def label : Weight → String
  | error => "ERROR"
  | warning => "WARNING"
  | info => "INFO"
  | verbose => "VERBOSE"

/-- The color in reports. -/
def style : Weight → Style
  | error => ⟨.red, true⟩
  | warning => ⟨.yellow, true⟩
  | info => ⟨.cyan, false⟩
  | verbose => ⟨.brightBlack, false⟩

end Weight

/-- The weights that a level reports. -/
def Level.weights : Level → List Weight
  | errorsOnly => [.error]
  | errorsAndWarnings => [.error, .warning]
  | everything => Weight.all

/-- The severity flags that a level reports. -/
def Level.flags (l : Level) : Flags := (l.weights.map Weight.flag).foldl (· ||| ·) 0

/-- The name of the type of a message. -/
def typeLabel (type : Flags) : String :=
  if Flags.contains type 2 then "Validation"
  else if Flags.contains type 4 then "Performance"
  else "General"

/-- A string of the driver: nothing, or bytes that end at the first zero. -/
abbrev DriverString := Option (List UInt8)

/-- The string as text, or `absent` if there is none. -/
def DriverString.text (s : DriverString) (absent : String) : String :=
  match s with
  | none => absent
  | some bytes =>
    (String.fromUTF8? ⟨(bytes.takeWhile (· != 0)).toArray⟩).getD "<invalid UTF-8>"

/-- A message. -/
structure Message where
  /-- Flags of its severity. -/
  severity : Flags
  /-- Flags of its type. -/
  type : Flags
  /-- Name of the rule it is about. -/
  id : DriverString
  /-- What it says. -/
  words : DriverString
  deriving DecidableEq, Inhabited, Repr

namespace Message

/-- The name of the rule. -/
def idText (m : Message) : String := m.id.text "Unknown"

/-- What the message says. -/
def wordsText (m : Message) : String := m.words.text "No message"

/-- How often the message was reported, from the second time on. -/
def repeatMark (occurrences : Nat) : String :=
  if occurrences > 1 then s!" [x{occurrences}]" else ""

/-- The message on a console. -/
def consoleText (m : Message) (occurrences : Nat) (colors : Bool) : String :=
  let gray : Style := ⟨.brightBlack, false⟩
  let white : Style := ⟨.white, false⟩
  let yellow : Style := ⟨.yellow, false⟩
  let blue : Style := ⟨.brightBlue, true⟩
  let weight := Weight.ofFlags m.severity
  let start := blue.paint colors "[VULKAN"
  let label := weight.style.paint colors weight.label
  let type := gray.paint colors (typeLabel m.type)
  let mark := yellow.paint colors (repeatMark occurrences)
  let idLabel := gray.paint colors "Message ID"
  let id := white.paint colors m.idText
  let words := white.paint colors m.wordsText
  s!"{start} {label}] [{type}]{mark}\n  |- {idLabel}: {id}\n  `- {words}\n"

/-- The message in a file. -/
def fileText (m : Message) (occurrences : Nat) : String :=
  let label := (Weight.ofFlags m.severity).label
  let mark := repeatMark occurrences
  s!"[VULKAN {label}] [{typeLabel m.type}]{mark}\n  |- Message ID: {m.idText}\n" ++
    s!"  `- {m.wordsText}\n\n"

end Message

end RenderTargets.Validation
