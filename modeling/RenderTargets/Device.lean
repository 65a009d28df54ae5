import RenderTargets.Error
import RenderTargets.Feature
import RenderTargets.Rect
import RenderTargets.Log.Journal
/-!
# Graphics devices

A graphics device makes resources from descriptions and takes a **strictly ordered stream of
commands**:

    begin (viewport | draw state | uniforms | draw | fill)* end
    … more passes …
    commit

Passes do not nest, and drawing needs a pass. The application is written against this interface; the
recorder and the Vulkan device implement it.

## The device is part of a state

An implementation is a type of states. Questions are functions of the state, everything else is a
step on it, so that what a refused command did to the device is there to be looked at.
-/

namespace RenderTargets

/-- What a draw uses, except for uniforms. -/
structure DrawState where
  /-- The pipeline. -/
  pipeline : PipelineId
  /-- The mesh. -/
  mesh : MeshId
  /-- The textures of the fragment stage, in the order of their bindings. -/
  textures : List TextureId := []
  deriving DecidableEq, Inhabited, Repr

/-- A type of states with a graphics device in it. -/
class GraphicsDevice (σ : Type) extends Log.HasJournal σ where
  /-- What the device can do. -/
  features : σ → Features
  /-- How many color attachments a pass can have. -/
  maxColors : σ → UInt32
  /-- What the screen looks like. -/
  display : σ → Display
  /-- Makes a texture. -/
  createTexture : TextureDesc → Step σ TextureId
  /-- Makes a mesh. -/
  createMesh : MeshDesc → Step σ MeshId
  /-- Makes a shader. -/
  createShader : ShaderDesc → Step σ ShaderId
  /-- Makes a pipeline. -/
  createPipeline : PipelineDesc → Step σ PipelineId
  /-- Makes a pass. -/
  createPass : PassDesc → Step σ PassId
  /-- Releases a resource that is alive. -/
  destroy : ResourceId → Step σ Unit
  /-- Begins a pass, or the pass into the screen. -/
  beginPass : Option PassId → PassAction → Step σ Unit
  /-- Restricts drawing to a rectangle. Its second coordinate counts from the top or the bottom. -/
  applyViewport : Rect → (topLeft : Bool) → Step σ Unit
  /-- Binds what the next draws use. -/
  applyDrawState : DrawState → Step σ Unit
  /-- Passes the uniforms of a stage on. -/
  applyUniforms : ShaderStage → List UInt8 → Step σ Unit
  /-- Draws a group of the mesh. -/
  draw : Nat → Step σ Unit
  /-- Fills rectangles with a color. -/
  fillRects : Vec4 → List Rect → Step σ Unit
  /-- Ends the pass. -/
  endPass : Step σ Unit
  /-- Hands the frame over and shows it. -/
  commitFrame : Step σ Unit
  /-- The window was asked to close. -/
  quitRequested : σ → Bool
  /-- Asks the window to close. -/
  requestQuit : Step σ Unit

namespace GraphicsDevice

/-- The device has all of the given features. -/
def supports {σ : Type} [GraphicsDevice σ] (s : σ) (f : Features) : Bool :=
  (features s).contains f

end GraphicsDevice

end RenderTargets
