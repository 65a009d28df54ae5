import RenderTargets.Recorder.Basic
/-!
# Resources of the recorder

Making a resource checks its description, then that it is not the one to be refused, and only then
changes the recorder. Releasing one takes it out of its slot map; what was made from it stays.
-/

namespace RenderTargets.Recorder

open Log

/-- A step on a recorder with a journal. -/
abbrev Recording (α : Type) := Step (Recorder × Journal) α

/-- The name under which the recorder writes to the journal. -/
def source : String := "mrt::mock"

/-- The recorder of the state. -/
def current : Recording Recorder := return (← get).1

/-- Changes the recorder of the state. -/
def change (f : Recorder → Recorder) : Recording Unit := modify fun s ↦ (f s.1, s.2)

/-- Adds a command to the stream. -/
def record (c : Command) : Recording Unit :=
  change fun r ↦ { r with commands := r.commands ++ [c] }

/-- Counts a resource to be made, unless it is the one to refuse. -/
def enroll (kind : ResourceKind) : Recording Unit := do
  let r ← current
  let nth := r.created.count kind + 1
  if r.failAt = some (kind, nth) then refuse source (.injected kind nth)
  change fun r ↦ { r with created := r.created.bump kind }

/-- Fails with the defect of a description, if it has one. -/
def accept {ε : Type} (cause : ε → InvalidCause) (check : Except ε Unit) : Recording Unit :=
  StepWith.ofChecked ((Checked.ofExcept check).mapError fun d ↦ .invalid (cause d))

/-- Makes a texture. -/
def createTexture (d : TextureDesc) : Recording TextureId := do
  accept (.texture d.name) d.validate
  enroll .texture
  let (id, textures) ← StepWith.orTrap ((← current).textures.insert? d)
  change fun r ↦ { r with textures, order := r.order ++ [.texture id] }
  return id

/-- Makes a mesh. -/
def createMesh (d : MeshDesc) : Recording MeshId := do
  StepWith.ofChecked (d.validate.mapError fun e ↦ .invalid (.mesh d.name e))
  enroll .mesh
  let (id, meshes) ← StepWith.orTrap ((← current).meshes.insert? d)
  change fun r ↦ { r with meshes, order := r.order ++ [.mesh id] }
  return id

/-- Makes a shader. -/
def createShader (d : ShaderDesc) : Recording ShaderId := do
  accept (.shader d.name) d.validate
  enroll .shader
  let (id, shaders) ← StepWith.orTrap ((← current).shaders.insert? d)
  change fun r ↦ { r with shaders, order := r.order ++ [.shader id] }
  return id

/-- Makes a pipeline of a shader that is alive. -/
def createPipeline (d : PipelineDesc) : Recording PipelineId := do
  accept (.pipeline d.name) d.validate
  if !(← current).shaders.contains d.shader then
    .fail (.invalid (.pipeline d.name .unknownShader))
  enroll .pipeline
  let (id, pipelines) ← StepWith.orTrap ((← current).pipelines.insert? d)
  change fun r ↦ { r with pipelines, order := r.order ++ [.pipeline id] }
  return id

/-- Every texture is alive and has the size and samples of the one before it. -/
def checkAttachments (r : Recorder) :
    Option TextureDesc → List TextureId → Except PassDefect Unit
  | _, [] => pure ()
  | before, id :: rest => do
    match r.textures.get? id with
    | none => throw .unknownTexture
    | some t =>
      if let some b := before then
        if t.width ≠ b.width ∨ t.height ≠ b.height ∨ t.samples ≠ b.samples then
          throw .unequalAttachments
      checkAttachments r (some t) rest

/-- The texture for depth, if there is one, is alive and has a depth buffer. -/
def checkDepth (r : Recorder) : Option TextureId → Except PassDefect Unit
  | none => pure ()
  | some id =>
    match r.textures.get? id with
    | some t => if t.depth.isSome then pure () else throw .noDepthBuffer
    | none => throw .noDepthBuffer

/-- Makes a pass of textures that fit each other. -/
def createPass (d : PassDesc) : Recording PassId := do
  let r ← current
  accept (.pass d.name) (d.validate r.maxColors)
  accept (.pass d.name) (r.checkAttachments none d.textures)
  accept (.pass d.name) (r.checkDepth d.depth)
  enroll .pass
  let (id, passes) ← StepWith.orTrap ((← current).passes.insert? d)
  change fun r ↦ { r with passes, order := r.order ++ [.pass id] }
  return id

/-- The recorder without a resource, if that was alive. -/
def remove? (r : Recorder) : ResourceId → Option Recorder
  | .texture h => (r.textures.remove h).map fun p ↦ { r with textures := p.2 }
  | .mesh h => (r.meshes.remove h).map fun p ↦ { r with meshes := p.2 }
  | .shader h => (r.shaders.remove h).map fun p ↦ { r with shaders := p.2 }
  | .pipeline h => (r.pipelines.remove h).map fun p ↦ { r with pipelines := p.2 }
  | .pass h => (r.passes.remove h).map fun p ↦ { r with passes := p.2 }

/-- Releases a resource. -/
def destroy (id : ResourceId) : Recording Unit := do
  match (← current).remove? id with
  | none => .fail (.invalid (.notAlive id))
  | some r => change fun _ ↦ { r with destroyed := r.destroyed.bump id.kind }

end RenderTargets.Recorder
