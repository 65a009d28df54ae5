import RenderTargets.Vulkan.Device.Basic
/-!
# Resources of the device

A resource is made first and then put into its slot map. One that is released is given up at once,
so the GPU has to be done with it: releasing waits for the GPU, and is refused while a frame is
recorded.
-/

namespace RenderTargets.Vulkan.Device

open Log

/-- Makes a texture. -/
def createTexture (t : TextureDesc) : DeviceStep TextureId := do
  let d ← RunOn.part
  let limit := d.capabilities.maxSamples
  if limit < t.samples then
    .fail (.invalid (.texture t.name (.tooManySamples t.samples limit)))
  let texture ← Texture.create d.context t
  note .debug source
    (s!"Texture '{t.name}' {t.width.toNat}x{t.height.toNat} {t.format.name} " ++
      s!"x{t.samples.toNat}")
  let (id, textures) ← StepWith.orTrap (d.textures.insert? texture)
  RunOn.change ({ · with textures })
  return id

/-- Makes a mesh. -/
def createMesh (m : MeshDesc) : DeviceStep MeshId := do
  let mesh ← Mesh.create m
  let (id, meshes) ← StepWith.orTrap ((← RunOn.part).meshes.insert? mesh)
  RunOn.change ({ · with meshes })
  return id

/-- Makes a shader. -/
def createShader (s : ShaderDesc) : DeviceStep ShaderId := do
  let d ← RunOn.part
  let shader ← Shader.create d.context s
  let (id, shaders) ← StepWith.orTrap (d.shaders.insert? shader)
  RunOn.change ({ · with shaders })
  return id

/-- Makes a pipeline of a shader that is alive. -/
def createPipeline (p : PipelineDesc) : DeviceStep PipelineId := do
  let d ← RunOn.part
  let shader ← StepWith.orFail (.invalid (.pipeline p.name .unknownShader))
    (d.shaders.get? p.shader)
  let pipeline ← Pipeline.create d.context p shader
  let (id, pipelines) ← StepWith.orTrap (d.pipelines.insert? pipeline)
  RunOn.change ({ · with pipelines })
  return id

/-- Makes a pass of textures that fit each other. -/
def createPass (p : PassDesc) : DeviceStep PassId := do
  let d ← RunOn.part
  let pass ← Pass.create d.context p d.textures d.capabilities.maxColors
  note .debug source
    (s!"Pass '{pass.name}': {pass.textures.length} color attachment(s), " ++
      s!"{pass.extent.width.toNat}x{pass.extent.height.toNat}, resolves: {pass.resolves}")
  let (id, passes) ← StepWith.orTrap (d.passes.insert? pass)
  RunOn.change ({ · with passes })
  return id

/-- The device without a resource and how that is given up, if it was alive. -/
def remove? (d : Device) : ResourceId → Option (Device × Run Unit)
  | .texture h => (d.textures.remove h).map fun p ↦ ({ d with textures := p.2 }, p.1.drop)
  | .mesh h => (d.meshes.remove h).map fun p ↦ ({ d with meshes := p.2 }, p.1.drop)
  | .shader h => (d.shaders.remove h).map fun p ↦ ({ d with shaders := p.2 }, p.1.drop)
  | .pipeline h => (d.pipelines.remove h).map fun p ↦ ({ d with pipelines := p.2 }, p.1.drop)
  | .pass h => (d.passes.remove h).map fun p ↦ ({ d with passes := p.2 }, p.1.drop)

/-- Releases a resource. -/
def destroy (id : ResourceId) : DeviceStep Unit := do
  let d ← RunOn.part
  if d.frame.isSome then refuse source (.releaseInFrame id)
  Run.work "wait idle before release"
    (Driver.perform .waitDevice (.waitDevice d.context.device))
  match d.remove? id with
  | none => .fail (.invalid (.notAlive id))
  | some (d, drop) =>
    RunOn.change fun _ ↦ d
    drop

end RenderTargets.Vulkan.Device
