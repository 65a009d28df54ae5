import RenderTargets.Feature
import RenderTargets.Validation.Config
import RenderTargets.Vulkan.Enum
/-!
# What is asked for and what is offered

A Vulkan device is asked for some things by its configuration. What it offers follows from three
limits of the GPU, less the features that the configuration switches off. A feature that is switched
off takes the limit behind it down to one.
-/

namespace RenderTargets.Vulkan

/-! ### Limits -/

/-- The limits of a GPU that matter. -/
structure Limits where
  /-- Color attachments of a pass. -/
  maxColors : UInt32
  /-- Sample counts of color images. -/
  colorSamples : Flags
  /-- Sample counts of depth images. -/
  depthSamples : Flags
  deriving DecidableEq, Inhabited, Repr

/-- What the engine says a GPU can do. -/
structure Capabilities where
  /-- The features. -/
  features : Features
  /-- Color attachments of a pass. -/
  maxColors : UInt32
  /-- Samples per pixel. -/
  maxSamples : UInt32
  deriving DecidableEq, Inhabited, Repr

/-- The capabilities of a GPU with some features switched off. -/
def Limits.capabilities (l : Limits) (disabled : Features) : Capabilities :=
  let maxColors := max l.maxColors 1
  let maxSamples := largestSampleCount (l.colorSamples &&& l.depthSamples)
  let targets := if maxColors ≥ 2 then Features.multipleTargets else Features.none
  let sampling := if maxSamples > 1 then Features.multisampling else Features.none
  let features := (targets.union sampling).diff disabled
  { features
    maxColors := if features.contains .multipleTargets then maxColors else 1
    maxSamples := if features.contains .multisampling then maxSamples else 1 }

/-! ### Configurations -/

/-- What a Vulkan device is asked for. -/
structure Config where
  /-- Name told to the driver. -/
  appName : String := "MRT Sample"
  /-- Validation is wanted. -/
  validation : Bool := true
  /-- Which messages of validation are reported. -/
  level : Validation.Level := .errorsAndWarnings
  /-- Where they are reported. -/
  output : Validation.Output := .console
  /-- The program stops at an error of validation. -/
  breakOnError : Bool := false
  /-- Frames recorded ahead of the GPU. -/
  framesInFlight : Nat := 2
  /-- Images are shown in step with the screen. -/
  vsync : Bool := true
  /-- Features switched off. -/
  disabled : Features := .none
  deriving DecidableEq, Inhabited, Repr

/-- Validation is wanted and was built in. -/
def Config.validationActive (c : Config) (builtIn : Bool) : Bool := builtIn && c.validation

end RenderTargets.Vulkan
