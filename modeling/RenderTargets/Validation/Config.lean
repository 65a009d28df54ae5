/-!
# What to report of validation

Which messages of the validation layer are reported, and where: on the console, in a file that the
configuration names by its path, or in both.
-/

namespace RenderTargets.Validation

/-- Which messages are reported. -/
inductive Level where
  /-- Errors. -/
  | errorsOnly
  /-- Errors and warnings. -/
  | errorsAndWarnings
  /-- Everything. -/
  | everything
  deriving DecidableEq, Inhabited, Repr

namespace Level

/-- Every level. -/
def all : List Level := [errorsOnly, errorsAndWarnings, everything]

/-- The name of the level. -/
def name : Level → String
  | errorsOnly => "ErrorsOnly"
  | errorsAndWarnings => "ErrorsAndWarnings"
  | everything => "All"

end Level

/-- Where messages are reported. -/
inductive Output where
  /-- On the console. -/
  | console
  /-- In the file at a path. -/
  | file (path : String)
  /-- In both. -/
  | both (path : String)
  deriving DecidableEq, Inhabited, Repr

namespace Output

/-- The path of the file where no other is given. -/
def usualPath : String := "validation.log"

/-- The outputs by name, with the usual path. -/
def all : List Output := [console, file usualPath, both usualPath]

/-- The name of the output. -/
def name : Output → String
  | console => "Console"
  | file _ => "File"
  | both _ => "Both"

/-- The console is written to. -/
def usesConsole : Output → Bool
  | file _ => false
  | _ => true

/-- The path of the file that is written to. -/
def path? : Output → Option String
  | console => none
  | file path => some path
  | both path => some path

end Output

/-- What to report. -/
structure Config where
  /-- Which messages. -/
  level : Level
  /-- Where. -/
  output : Output
  /-- The file can be opened when the configuration is installed. That may change later on. -/
  fileOpens : Bool := true
  /-- The program stops at an error. -/
  breakOnError : Bool := false
  deriving DecidableEq, Inhabited, Repr

end RenderTargets.Validation
