import RenderTargets.App.Capability
import RenderTargets.App.Config
import RenderTargets.Text.Layout
/-!
# The fallback display

A message in the middle of the screen, shown where the scene cannot be.
-/

namespace RenderTargets.App

/-- The message and how it looks. -/
structure Fallback where
  /-- The text buffer. -/
  text : DebugText
  /-- The words. -/
  message : String
  /-- The color around them. -/
  clearColor : Vec4
  deriving DecidableEq, Inhabited, Repr

namespace Fallback

/-- The message with the scale and colors of a configuration. -/
def ofConfig (c : Config) : Fallback :=
  { text := { ({} : DebugText).setScale c.fallbackTextScale with color := c.fallbackTextColor }
    message := s!"This demo needs {featureName}"
    clearColor := c.fallbackClearColor }

variable {σ : Type} [GraphicsDevice σ]

/-- The text buffer of the display beside a device. -/
def textLens : Lens (Fallback × σ) (DebugText × σ) :=
  Lens.beside ⟨fun f ↦ f.text, fun t f ↦ { f with text := t }⟩

/-- Clears the screen and shows the message. -/
def draw : Step (Fallback × σ) Unit := do
  let (f, s) ← get
  let display := GraphicsDevice.display s
  let place ← StepWith.orTrap (f.text.centered? f.message display.width display.height)
  StepWith.within .snd (GraphicsDevice.beginPass none (.clear f.clearColor) : Step σ Unit)
  let text ← StepWith.orTrap ({ f.text with cursor := place }.print? f.message)
  modify fun s ↦ ({ s.1 with text }, s.2)
  StepWith.within textLens DebugText.flush
  StepWith.within .snd (GraphicsDevice.endPass : Step σ Unit)

end Fallback

end RenderTargets.App
