import RenderTargets.Vulkan.Pipeline
import RenderTargets.Vulkan.Texture
/-!
# Passes on the GPU

A pass is its shape together with the images that it renders into, in the order of `PassLayout`. Its
attachments have to be alike, and the depth buffer has to have their size.
-/

namespace RenderTargets.Vulkan

open Log

/-- Puts the images of a pass together. -/
def createFramebuffer (pass : Object .renderPass) (views : List (Object .view)) (extent : Extent) :
    Run (Object .framebuffer) :=
  Run.work "create framebuffer"
    (Driver.create .createFramebuffer (.createFramebuffer · ⟨pass, views, extent⟩))

/-- A pass. -/
structure Pass where
  /-- Name for messages. -/
  name : String
  /-- Its shape. -/
  renderPass : Object .renderPass
  /-- Its images. -/
  framebuffer : Object .framebuffer
  /-- Size of the images. -/
  extent : Extent
  /-- The textures rendered into. -/
  textures : List TextureId
  /-- What each is cleared to. -/
  clearColors : List Vec4
  /-- What the depth buffer is cleared to. -/
  clearDepth : Single
  /-- What the stencil bits are cleared to. -/
  clearStencil : UInt8
  /-- The textures are resolved when the pass ends. -/
  resolves : Bool
  /-- The pipelines that can be used in it. -/
  signature : Signature
  deriving DecidableEq, Inhabited, Repr

/-- The live textures of a device. -/
abbrev TextureMap := Slot.Map ResourceKind.texture Texture

/-- What decides whether a texture fits others. -/
def Texture.shape (t : Texture) : AttachmentShape :=
  { name := t.name
    width := t.extent.width
    height := t.extent.height
    samples := t.samples
    format := t.format }

/-- The textures are like each other but for their names. -/
def Texture.isLike (t u : Texture) : Bool :=
  t.extent == u.extent && t.samples == u.samples && t.format == u.format

namespace Pass

/-- The textures to render into; the first has position `i`. -/
def colorTextures (textures : TextureMap) : (i : Nat) → List TextureId →
    Except PassFault (List Texture)
  | _, [] => .ok []
  | i, id :: rest => do
    match textures.get? id with
    | none => throw (.deadAttachment i)
    | some t =>
      if !t.usage.isRendered then throw (.notRenderTarget t.name)
      return t :: (← colorTextures textures (i + 1) rest)

/-- All textures are like the first. -/
def checkAlike (first : Texture) : List Texture → Except PassFault Unit
  | [] => .ok ()
  | t :: rest =>
    if t.isLike first then checkAlike first rest else .error (.unlikeFirst t.shape first.shape)

/-- The texture whose depth buffer is used, which has the size of the first attachment. -/
def depthTexture (textures : TextureMap) (first : Texture) :
    Option TextureId → Except PassFault (Option Texture)
  | none => .ok none
  | some id =>
    match textures.get? id with
    | none => .error .deadDepth
    | some t =>
      if t.depth.isSome && t.extent == first.extent then .ok (some t)
      else .error (.depthMismatch t.name)

/-- What a pass is made of. -/
structure Parts where
  /-- The textures rendered into. -/
  colors : List Texture
  /-- The first of them. -/
  first : Texture
  /-- The texture whose depth buffer is used. -/
  depth : Option Texture
  /-- The textures are resolved when the pass ends. -/
  resolves : Bool
  /-- Samples per pixel. -/
  samples : Flags
  deriving DecidableEq, Repr

/-- The parts of a description, if they fit each other. -/
def partsOf (d : PassDesc) (textures : TextureMap) : Except PassFault Parts := do
  let colors ← colorTextures textures 0 d.textures
  match colors with
  | [] => throw .noColor
  | first :: rest =>
    checkAlike first rest
    let depth ← depthTexture textures first d.depth
    let resolves := d.store == .resolve && first.samples > 1
    if resolves then
      if let some t := colors.find? (·.resolve.isNone) then throw (.noResolveImage t.name)
    match sampleFlag? first.samples with
    | none => throw (.sampleCount first.samples)
    | some samples => return { colors, first, depth, resolves, samples }

/-- The layout of an attachment after the pass: ready for sampling if it can be sampled then. -/
def finalLayout (p : Parts) (t : Texture) : Code :=
  if p.resolves || (t.samples == 1 && t.sampledView?.isSome) then layoutShaderRead
  else layoutColorAttachment

/-- The layout of the pass. -/
def layoutOf (ctx : Context) (d : PassDesc) (p : Parts) : PassLayout :=
  { colors := p.colors.map fun t ↦ (ctx.formatCode t.format, finalLayout p t)
    samples := p.samples
    depthFormat := (p.depth.bind (·.depthFormat?)).map ctx.formatCode
    resolve := p.resolves
    colorStore := storeCode d.store p.first.samples }

/-- The images in the order of the attachments. -/
def viewsOf (p : Parts) : List (Object .view) :=
  p.colors.map (·.color.view) ++
    (if p.resolves then p.colors.filterMap fun t ↦ t.resolve.map (·.view) else []) ++
    (p.depth.bind (·.depthView?)).toList

/-- Makes a pass. If its images cannot be put together, its shape is given up. -/
def create (ctx : Context) (d : PassDesc) (textures : TextureMap) (limit : UInt32) : Run Pass := do
  StepWith.ofChecked
    ((Checked.ofExcept (d.validate limit)).mapError fun e ↦ .invalid (.pass d.name e))
  match partsOf d textures with
  | .error fault => refuse source (.pass d.name fault)
  | .ok p =>
    let renderPass ← createRenderPass (layoutOf ctx d p)
    let framebuffer ← StepWith.undoingOnError
      (createFramebuffer renderPass (viewsOf p) p.first.extent) (Run.destroy renderPass)
    Run.share
    return {
      name := d.name
      renderPass, framebuffer
      extent := p.first.extent
      textures := d.textures
      clearColors := d.colors.map (·.clearColor)
      clearDepth := d.clearDepth
      clearStencil := d.clearStencil
      resolves := p.resolves
      signature :=
        ⟨UInt32.ofNat d.textures.length, p.first.format, p.depth.bind (·.depthFormat?),
          p.first.samples⟩ }

/-- What each attachment is cleared to when the pass begins with an action. -/
def clearValues (p : Pass) (a : PassAction) : List ClearValue :=
  p.clearColors.map (fun c ↦ .color (a.color.getD c)) ++
    (if p.resolves then p.clearColors.map fun _ ↦ .color (.splat .zero) else []) ++
    (if p.signature.depthFormat.isSome then
      [.depthStencil (a.depth.getD p.clearDepth) (a.stencil.getD p.clearStencil)]
    else [])

/-- Gives a pass up. -/
def drop (p : Pass) : Run Unit := do
  Run.destroy p.framebuffer
  Run.destroy p.renderPass
  Run.unshare

end Pass

end RenderTargets.Vulkan
