import RenderTargets.Device
import RenderTargets.Vulkan.Device.Resources
/-!
# Commands of the device

A command is checked against the pass that is being recorded and the resources that are alive, and
recorded if the pass has a target. Refused commands leave the pass as it was.

## The image of the screen

The first pass into the screen asks for an image, once in a frame. There may be none; the passes
into the screen then have no target, and nothing is shown when the frame is committed.
-/

namespace RenderTargets.Vulkan.Device

open Log

/-! ### Frames -/

/-- Starts to record a frame, unless one is being recorded. -/
def ensureFrame : DeviceStep Unit := do
  if (← RunOn.part).frame.isNone then
    (← slot).begin
    RunOn.change ({ · with frame := some {} })

/-- Changes the frame that is being recorded. -/
def changeFrame (f : FrameState → FrameState) : DeviceStep Unit :=
  RunOn.change fun d ↦ { d with frame := d.frame.map f }

/-- The image of the screen that is rendered into in this frame. -/
def screenImage : DeviceStep (Option Nat) := do
  let d ← RunOn.part
  match d.frame with
  | none => refuse source .noFrame
  | some frame =>
    if frame.asked then return frame.image
    changeFrame ({ · with asked := true })
    if d.screen.needsRebuild then
      onScreen (Swapchain.rebuild d.context d.windowSize)
      if (← RunOn.part).screen.needsRebuild then return none
    let image ← onScreen (Swapchain.acquire d.slotIndex)
    changeFrame ({ · with image })
    return image

/-- Records a command into the frame. -/
def record (command : Recorded) : DeviceStep Unit := do
  Run.record (← slot).commands command

/-! ### Beginning a pass -/

/-- What a pass renders into. -/
structure Target where
  /-- Its shape. -/
  pass : Object .renderPass
  /-- Its images. -/
  framebuffer : Object .framebuffer
  /-- What they are cleared to. -/
  clears : List ClearValue
  deriving DecidableEq, Repr

/-- A pass into textures as it begins. -/
def offscreenTarget (d : Device) (id : PassId) (action : PassAction) :
    Checked EngineError (ActivePass × Target) := do
  let some p := d.passes.get? id | throw (.error (.invalid .unknownPass))
  if p.textures.any fun t ↦ !d.textures.contains t then
    throw (.error (.invalid (.pass p.name .releasedAttachment)))
  return (
    { extent := p.extent
      signature := p.signature
      attachments := p.textures
      resolves := p.resolves
      recording := true },
    ⟨p.renderPass, p.framebuffer, p.clearValues action⟩)

/-- The pass into the screen as it begins, with its target if there is an image. -/
def screenTarget (action : PassAction) : DeviceStep (ActivePass × Option Target) := do
  changeFrame ({ · with screenPass := true })
  let image ← screenImage
  let screen := (← RunOn.part).screen
  let active : ActivePass :=
    { extent := screen.extent
      signature := ⟨1, screen.colorFormat, some screenDepthFormat, 1⟩
      attachments := []
      resolves := false
      recording := image.isSome }
  match image with
  | none => return (active, none)
  | some index =>
    let framebuffer ← StepWith.orTrap screen.framebuffers[index]?
    let clears : List ClearValue :=
      [.color (action.color.getD .black),
       .depthStencil (action.depth.getD .one) (action.stencil.getD 0)]
    return (active, some ⟨screen.renderPass, framebuffer, clears⟩)

/-- Records the beginning of a pass and draws to all of its target. -/
def recordBegin (extent : Extent) (t : Target) : DeviceStep Unit := do
  let viewport ← StepWith.orTrap (flippedViewport? extent.rect true extent.height)
  record (.beginPass ⟨t.pass, t.framebuffer, extent.rect, t.clears⟩)
  record (.viewport viewport)
  record (.scissor extent.rect)

/-- Begins a pass. -/
def beginPass (pass : Option PassId) (action : PassAction) : DeviceStep Unit := do
  let d ← RunOn.part
  if d.active.isSome then refuse source .nestedPass
  let (active, target) ←
    match pass with
    | some id => do
      let (active, target) ← StepWith.ofChecked (d.offscreenTarget id action)
      ensureFrame
      pure (active, some target)
    | none => do
      ensureFrame
      screenTarget action
  if let some t := target then recordBegin active.extent t
  RunOn.change ({ · with active := some active })

/-! ### Inside a pass -/

/-- The pass that is being recorded, or the refusal of a command that needs one. -/
def activePass (command : String) : DeviceStep ActivePass := do
  match (← RunOn.part).active with
  | some a => return a
  | none => refuse source (.outsidePass command)

/-- Restricts drawing to a rectangle. -/
def applyViewport (rect : Rect) (topLeft : Bool) : DeviceStep Unit := do
  let active ← activePass "apply_viewport"
  if active.recording then
    let viewport ← StepWith.orTrap (flippedViewport? rect topLeft active.extent.height)
    record (.viewport viewport)

/-- The views of textures, each of which is alive and can be sampled. -/
def sampledViews : List TextureId → DeviceStep (List (Object .view))
  | [] => return []
  | id :: rest => do
    match (← RunOn.part).textures.get? id with
    | none => .fail (.invalid (.unknownInDrawState .texture))
    | some t =>
      if !t.isSampleable then refuse source (.notSampleable t.name)
      return t.sampledView?.toList ++ (← sampledViews rest)

/-- Writes the views into a descriptor set of the frame, one for each binding, and binds it. -/
def bindViews (p : Pipeline) (views : List (Object .view)) : DeviceStep Unit := do
  if p.bindings.isEmpty then return
  let slot ← slot
  let sampler := (← RunOn.part).sampler
  let set ← slot.allocateSet p.setLayout
  let writes := (p.bindings.zip views).map fun (binding, view) ↦
    ({ set, binding, sampler, view } : DescriptorWrite)
  Run.changeDriver (·.push (.updateSets writes))
  record (.bindSet p.layout set)

/-- Binds what the next draws use. -/
def applyDrawState (state : DrawState) : DeviceStep Unit := do
  let d ← RunOn.part
  let pipeline ← StepWith.orFail (.invalid (.unknownInDrawState .pipeline))
    (d.pipelines.get? state.pipeline)
  let mesh ← StepWith.orFail (.invalid (.unknownInDrawState .mesh)) (d.meshes.get? state.mesh)
  let views ← sampledViews state.textures
  if views.length < pipeline.bindings.length then
    refuse source (.tooFewTextures pipeline.name pipeline.bindings.length views.length)
  let active ← activePass "apply_draw_state"
  if state.textures.any active.attachments.contains then refuse source .sampledAttachment
  if pipeline.signature ≠ active.signature then
    refuse source (.signatureMismatch pipeline.name pipeline.signature active.signature)
  RunOn.change
    ({ · with active := some { active with
        pipeline := some state.pipeline, mesh := some state.mesh } })
  if active.recording then
    record (.bindPipeline pipeline.pipeline)
    mesh.bind (← slot).commands
    bindViews pipeline views

/-- Passes the uniforms of a stage on. -/
def applyUniforms (stage : ShaderStage) (data : List UInt8) : DeviceStep Unit := do
  let active ← activePass "apply_uniforms"
  match active.pipeline with
  | none => refuse source (.beforeDrawState "apply_uniforms")
  | some id =>
    let p ← StepWith.orFail (.invalid (.releasedInUse .pipeline))
      ((← RunOn.part).pipelines.get? id)
    if !Flags.contains p.uniformStages (stageFlags stage) then
      refuse source (.noUniformBlock p.name stage)
    if p.uniformSize.toNat < data.length ∨ data.length % 4 ≠ 0 then
      refuse source (.uniformSize data.length p.uniformSize p.name)
    if active.recording then record (.pushConstants p.layout p.uniformStages data)

/-- Draws a group of the mesh. -/
def draw (group : Nat) : DeviceStep Unit := do
  let active ← activePass "draw"
  match active.mesh with
  | none => refuse source (.beforeDrawState "draw")
  | some id =>
    let mesh ← StepWith.orFail (.invalid (.releasedInUse .mesh)) ((← RunOn.part).meshes.get? id)
    match mesh.groups[group]? with
    | none => refuse source (.noSuchGroup group mesh.groups.length)
    | some g => if active.recording then mesh.draw (← slot).commands g

/-- Fills rectangles with a color. -/
def fillRects (color : Vec4) (rects : List Rect) : DeviceStep Unit := do
  let active ← activePass "fill_rects"
  if active.recording then
    let clipped ← StepWith.orTrap (clearRects? active.extent rects)
    if !clipped.isEmpty then
      let attachments := (List.range active.signature.colorCount.toNat).map UInt32.ofNat
      record (.clearAttachments attachments color clipped)

/-- Notes that a pass resolved a texture. -/
def markResolved (textures : TextureMap) (id : TextureId) : TextureMap :=
  textures.modify id ({ · with resolved := true })

/-- Ends the pass. -/
def endPass : DeviceStep Unit := do
  match (← RunOn.part).active with
  | none => refuse source .endWithoutBegin
  | some a =>
    RunOn.change ({ · with active := none })
    if a.recording then record .endPass
    if a.resolves then
      RunOn.change fun d ↦ { d with textures := a.attachments.foldl markResolved d.textures }

/-! ### Committing a frame -/

/-- What the frame waits for and tells when it renders into an image of the screen. -/
def screenSync (d : Device) (index : Nat) :
    Option (Object .semaphore × Object .semaphore) := do
  return (← d.screen.imageAvailable? d.slotIndex, ← d.screen.renderFinished[index]?)

/-- Hands the frame over and shows its image, if it has one. -/
def handOver : DeviceStep Unit := do
  let d ← RunOn.part
  let image := d.frame.bind (·.image)
  RunOn.change ({ · with frame := none })
  let slot ← slot
  match image with
  | none => slot.submit d.context none
  | some index =>
    let sync ← StepWith.orTrap (d.screenSync index)
    slot.submit d.context (some sync)
    onScreen (Swapchain.present d.context index)
  RunOn.change fun d ↦ { d with slotIndex := (d.slotIndex + 1) % d.slots.length }

/-- Commits the frame. A frame without a pass into the screen gets one, so that there is something
to show. -/
def commitFrame : DeviceStep Unit := do
  if (← RunOn.part).active.isSome then refuse source .commitInsidePass
  ensureFrame
  if !(← RunOn.part).frame.any (·.screenPass) then
    beginPass none {}
    endPass
  handOver

/-- Asks to quit. -/
def requestQuit : DeviceStep Unit := RunOn.change ({ · with quit := true })

instance : GraphicsDevice (Device × Host) where
  toHasJournal := inferInstance
  features s := s.1.capabilities.features
  maxColors s := s.1.capabilities.maxColors
  display s := s.1.display
  createTexture := createTexture
  createMesh := createMesh
  createShader := createShader
  createPipeline := createPipeline
  createPass := createPass
  destroy := destroy
  beginPass := beginPass
  applyViewport := applyViewport
  applyDrawState := applyDrawState
  applyUniforms := applyUniforms
  draw := draw
  fillRects := fillRects
  endPass := endPass
  commitFrame := commitFrame
  quitRequested s := s.1.quit
  requestQuit := requestQuit

end RenderTargets.Vulkan.Device
