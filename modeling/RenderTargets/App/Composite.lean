import RenderTargets.App.Config
import RenderTargets.App.Targets
/-!
# The composite stage

The surfaces of the scene side by side on the screen, one panel for each, from the lower left
corner.
-/

namespace RenderTargets.App

/-- The place of the panel at `i`. -/
def panel? (width height : UInt32) (i : Nat) : Option Rect := do
  return ⟨(← Word.mul? (UInt32.ofNat i) width).toInt32, 0, width, height⟩

/-- The places of the three panels. -/
def panels? (width height : UInt32) : Option (List Rect) :=
  (List.range targetCount).mapM (panel? width height)

/-- The panels and what they are drawn with. -/
structure Composite where
  /-- The mesh of a panel. -/
  mesh : MeshId
  /-- Its shader. -/
  shader : ShaderId
  /-- Its pipeline. -/
  pipeline : PipelineId
  /-- The surface of each panel and its place. -/
  panels : List (TextureId × Rect)
  /-- The color around the panels. -/
  clearColor : Vec4
  deriving DecidableEq, Inhabited, Repr

namespace Composite

/-- The pipeline of the panels, for the pass into the screen. -/
def pipelineDesc (layout : VertexLayout) (shader : ShaderId) (display : Display) : PipelineDesc :=
  { PipelineDesc.ofLayoutAndShader layout shader with
    name := "quad_pipeline"
    signature := ⟨1, display.colorFormat, display.depthFormat, display.samples⟩ }

variable {σ : Type} [GraphicsDevice σ]

/-- Makes and tracks mesh, shader and pipeline of the panels. -/
def create (shader : ShaderDesc) (targets : Targets) (config : Config) :
    Step (Arena × σ) Composite := do
  let quad := MeshDesc.fullScreenQuad true
  let mesh ← StepWith.within .snd (GraphicsDevice.createMesh quad : Step σ MeshId)
  Arena.track (.mesh mesh)
  let shader ← StepWith.within .snd (GraphicsDevice.createShader shader : Step σ ShaderId)
  Arena.track (.shader shader)
  let display := GraphicsDevice.display (← get).2
  let pipeline ← StepWith.within .snd
    (GraphicsDevice.createPipeline (pipelineDesc quad.layout shader display) : Step σ PipelineId)
  Arena.track (.pipeline pipeline)
  let places ← StepWith.orTrap (panels? config.targetWidth config.targetHeight)
  return ⟨mesh, shader, pipeline, targets.surfaces.zip places, config.displayClearColor⟩

/-- Draws panels one after another. -/
def drawPanels (c : Composite) : List (TextureId × Rect) → Step σ Unit
  | [] => pure ()
  | (texture, place) :: rest => do
    GraphicsDevice.applyViewport place false
    GraphicsDevice.applyDrawState { pipeline := c.pipeline, mesh := c.mesh, textures := [texture] }
    GraphicsDevice.draw 0
    drawPanels c rest

/-- Draws the panels on the screen. -/
def draw (c : Composite) : Step σ Unit := do
  GraphicsDevice.beginPass none (.clear c.clearColor)
  c.drawPanels c.panels
  GraphicsDevice.endPass

end Composite

end RenderTargets.App
