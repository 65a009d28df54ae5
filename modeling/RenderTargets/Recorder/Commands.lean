import RenderTargets.Recorder.Resources
/-!
# Commands of the recorder

A command is checked against the pass that is being recorded and the resources that are alive, and
then recorded. Refused commands leave the recorder as it was.

## Resolved textures

When a pass that resolves ends, its attachments count as resolved from then on. Sampling a texture
with several samples needs that.
-/

namespace RenderTargets.Recorder

open Log

/-- The pass that is being recorded, or the refusal of a command that needs one. -/
def activePass (command : String) : Recording ActivePass := do
  match (← current).active with
  | some a => return a
  | none => refuse source (.outsidePass command)

/-- The pass into the given textures as it begins, with the color of each. -/
def beginOffscreen (r : Recorder) (id : PassId) (action : PassAction) :
    Checked EngineError (ActivePass × List Vec4) := do
  let some d := r.passes.get? id | throw (.error (.invalid .unknownPass))
  match d.textures with
  | [] => throw .trap
  | head :: _ =>
    let some first := r.textures.get? head | throw (.error (.invalid .releasedAttachment))
    let depthFormat := d.depth.bind fun t ↦ (r.textures.get? t).bind (·.depth)
    let signature : Signature :=
      { colorCount := UInt32.ofNat d.textures.length
        colorFormat := first.format
        depthFormat
        samples := first.samples }
    return ({ pass := some id, signature, attachments := d.textures }, d.clearColors action)

/-- The pass into the screen as it begins, with its color. -/
def beginScreen (r : Recorder) (action : PassAction) : ActivePass × List Vec4 :=
  let d := r.display
  ({ pass := none, signature := ⟨1, d.colorFormat, d.depthFormat, d.samples⟩, attachments := [] },
    [action.color.getD defaultClearColor])

/-- Begins a pass. -/
def beginPass (pass : Option PassId) (action : PassAction) : Recording Unit := do
  let r ← current
  if r.active.isSome then refuse source .nestedPass
  let (active, clearColors) ←
    match pass with
    | some id => StepWith.ofChecked (r.beginOffscreen id action)
    | none => pure (r.beginScreen action)
  change fun r ↦ { r with active := some active }
  record (.beginPass pass clearColors)

/-- Restricts drawing to a rectangle. -/
def applyViewport (rect : Rect) (topLeft : Bool) : Recording Unit := do
  let _ ← activePass "apply_viewport"
  record (.viewport rect topLeft)

/-- Every texture is alive and can be sampled. -/
def checkSampled : List TextureId → Recording Unit
  | [] => pure ()
  | id :: rest => do
    let r ← current
    match r.textures.get? id with
    | none => .fail (.invalid (.unknownInDrawState .texture))
    | some t =>
      if t.samples > 1 && !r.resolved.contains id then refuse source (.unresolved t.name)
      checkSampled rest

/-- Binds what the next draws use. -/
def applyDrawState (state : DrawState) : Recording Unit := do
  let r ← current
  let pipeline ← StepWith.orFail (.invalid (.unknownInDrawState .pipeline))
    (r.pipelines.get? state.pipeline)
  if !r.meshes.contains state.mesh then .fail (.invalid (.unknownInDrawState .mesh))
  checkSampled state.textures
  let active ← activePass "apply_draw_state"
  if state.textures.any active.attachments.contains then refuse source .sampledAttachment
  if pipeline.signature ≠ active.signature then
    refuse source (.signatureMismatch pipeline.name pipeline.signature active.signature)
  change fun r ↦ { r with active := some { active with drawState := some state } }
  record (.drawState state)

/-- Sets the uniforms of a stage. -/
def applyUniforms (stage : ShaderStage) (data : List UInt8) : Recording Unit := do
  let active ← activePass "apply_uniforms"
  if active.drawState.isNone then refuse source (.beforeDrawState "apply_uniforms")
  record (.uniforms stage data)

/-- Draws a group of the mesh. -/
def draw (group : Nat) : Recording Unit := do
  match (← activePass "draw").drawState with
  | none => refuse source (.beforeDrawState "draw")
  | some state =>
    let groups := ((← current).meshes.get? state.mesh).elim 0 (·.groups.length)
    if groups ≤ group then refuse source (.noSuchGroup group groups)
    record (.draw group)

/-- Fills rectangles. -/
def fillRects (color : Vec4) (rects : List Rect) : Recording Unit := do
  let _ ← activePass "fill_rects"
  record (.fillRects color rects)

/-- The pass resolves its attachments when it ends. -/
def resolvesAtEnd (r : Recorder) (a : ActivePass) : Bool :=
  match a.pass with
  | some id => (r.passes.get? id).any (·.store == .resolve)
  | none => false

/-- Ends the pass. -/
def endPass : Recording Unit := do
  match (← current).active with
  | none => refuse source .endWithoutBegin
  | some a =>
    change fun r ↦
      { r with
        active := none
        resolved := if r.resolvesAtEnd a then r.resolved ++ a.attachments else r.resolved }
    record .endPass

/-- Commits the frame. -/
def commitFrame : Recording Unit := do
  if (← current).active.isSome then refuse source .commitInsidePass
  change fun r ↦
    let frames := r.frames + 1
    { r with frames, quit := r.quit || r.quitAfter.any (· ≤ frames) }
  record .commitFrame

/-- Asks to quit. -/
def requestQuit : Recording Unit := change fun r ↦ { r with quit := true }

instance : GraphicsDevice (Recorder × Journal) where
  toHasJournal := inferInstance
  features s := s.1.features
  maxColors s := s.1.maxColors
  display s := s.1.display
  createTexture := createTexture
  createMesh := createMesh
  createShader := createShader
  createPipeline := createPipeline
  createPass := createPass
  destroy := destroy
  beginPass := beginPass
  applyViewport := applyViewport
  applyDrawState := applyDrawState
  applyUniforms := applyUniforms
  draw := draw
  fillRects := fillRects
  endPass := endPass
  commitFrame := commitFrame
  quitRequested s := s.1.quit
  requestQuit := requestQuit

end RenderTargets.Recorder
