import RenderTargets.App.Config
import RenderTargets.App.Targets
import RenderTargets.Shape.Builder
/-!
# The offscreen stage

A turning cube, rendered into all surfaces of the scene at once. The cube turns about two axes by a
fixed step per frame. Its matrix is the projection, the shift to its place and the two turns, in
this order.
-/

namespace RenderTargets.App

/-! ### The motion of the cube -/

/-- Where the cube is in its motion. -/
structure CubeTransform where
  /-- Turn about the first axis. -/
  angleX : Single
  /-- Turn about the second axis. -/
  angleY : Single
  /-- Turn per frame. -/
  step : Vec2
  /-- Its place. -/
  position : Vec3
  /-- The projection. -/
  projection : Mat4
  deriving DecidableEq, Inhabited, Repr

namespace CubeTransform

/-- The cube at rest. -/
def ofConfig (c : Config) : CubeTransform :=
  { angleX := .zero
    angleY := .zero
    step := c.angleStep
    position := c.cubePosition
    projection :=
      Mat4.perspective (c.fovYDegrees * .radiansPerDegree) c.aspect c.zNear c.zFar }

/-- One frame later. -/
def advance (t : CubeTransform) : CubeTransform :=
  { t with angleX := t.angleX + t.step.x, angleY := t.angleY + t.step.y }

/-- The matrix from the cube to the screen. -/
def matrix (t : CubeTransform) : Mat4 :=
  t.projection * Mat4.translation t.position * Mat4.rotationX t.angleX * Mat4.rotationY t.angleY

/-- The uniforms of the vertex stage. -/
def uniforms (t : CubeTransform) : List UInt8 := t.matrix.bytes

end CubeTransform

/-! ### The stage -/

/-- The cube and what it is drawn with. -/
structure Offscreen where
  /-- Its mesh. -/
  mesh : MeshId
  /-- Its shader. -/
  shader : ShaderId
  /-- Its pipeline. -/
  pipeline : PipelineId
  /-- Its motion. -/
  transform : CubeTransform
  deriving DecidableEq, Inhabited, Repr

namespace Offscreen

/-- The mesh of the cube: positions, and normals in bytes. -/
def cube : Checked EngineError MeshDesc := do
  let shapes : ShapeBuilder := { layout := [⟨.position, .triple⟩, ⟨.normal, .unsignedBytes⟩] }
  let mesh ← (shapes.addBox .one .one .one 1).build
  return { mesh with name := "cube" }

/-- The pipeline of the cube, for the pass into the surfaces. -/
def pipelineDesc (layout : VertexLayout) (shader : ShaderId) (samples : UInt32) : PipelineDesc :=
  { PipelineDesc.ofLayoutAndShader layout shader with
    name := "cube_pipeline"
    depthWrite := true
    depthCompare := .lessEqual
    cull := true
    cullFace := .back
    signature := ⟨UInt32.ofNat targetCount, targetColorFormat, some targetDepthFormat, samples⟩ }

variable {σ : Type} [GraphicsDevice σ]

/-- Makes and tracks mesh, shader and pipeline of the cube. -/
def create (shader : ShaderDesc) (targets : Targets) (config : Config) :
    Step (Arena × σ) Offscreen := do
  let cube ← StepWith.ofChecked cube
  let mesh ← StepWith.within .snd (GraphicsDevice.createMesh cube : Step σ MeshId)
  Arena.track (.mesh mesh)
  let shader ← StepWith.within .snd (GraphicsDevice.createShader shader : Step σ ShaderId)
  Arena.track (.shader shader)
  let pipeline ← StepWith.within .snd
    (GraphicsDevice.createPipeline (pipelineDesc cube.layout shader targets.samples) :
      Step σ PipelineId)
  Arena.track (.pipeline pipeline)
  return ⟨mesh, shader, pipeline, .ofConfig config⟩

/-- The stage one frame later. -/
def advance (o : Offscreen) : Offscreen := { o with transform := o.transform.advance }

/-- Renders the cube where it is into every surface. -/
def draw (o : Offscreen) (targets : Targets) : Step σ Unit := do
  GraphicsDevice.beginPass (some targets.pass) {}
  GraphicsDevice.applyDrawState { pipeline := o.pipeline, mesh := o.mesh }
  GraphicsDevice.applyUniforms .vertex o.transform.uniforms
  GraphicsDevice.draw 0
  GraphicsDevice.endPass

end Offscreen

end RenderTargets.App
