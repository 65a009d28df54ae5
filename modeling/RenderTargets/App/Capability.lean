import RenderTargets.Device
/-!
# Whether the scene can be shown

The scene needs a device that binds three color attachments. Without several samples per pixel it is
shown with one.
-/

namespace RenderTargets.App

open Log

variable {σ : Type} [GraphicsDevice σ]

/-- How many surfaces the cube is rendered into at once. -/
def targetCount : Nat := 3

/-- What the fallback message says is missing. -/
def featureName : String := "MultipleRenderTarget"

/-- The name under which the gate writes to the journal. -/
def capabilitySource : String := "mrt::capability"

/-- The device can bind all surfaces of the scene at once. -/
def canShowScene : Step σ Bool := do
  let s ← get
  if !GraphicsDevice.supports s .multipleTargets then
    note .warn capabilitySource s!"{featureName} not supported, using fallback display"
    return false
  let limit := GraphicsDevice.maxColors s
  if limit.toNat < targetCount then
    note .warn capabilitySource
      (s!"device binds {limit.toNat} color attachments, {targetCount} required, " ++
        "using fallback display")
    return false
  note .info capabilitySource s!"{featureName} supported ({limit.toNat} color attachments)"
  return true

/-- The samples per pixel that the surfaces can have. -/
def effectiveSamples (requested : UInt32) : Step σ UInt32 := do
  let requested := max requested 1
  if requested > 1 && !GraphicsDevice.supports (← get) .multisampling then
    note .warn capabilitySource
      s!"multisampled render targets not supported, using 1 sample instead of {requested.toNat}"
    return 1
  return requested

end RenderTargets.App
