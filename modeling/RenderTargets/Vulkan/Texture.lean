import RenderTargets.Error
import RenderTargets.Vulkan.Host
import RenderTargets.Vulkan.Memory
/-!
# Textures on the GPU

A texture of several samples per pixel is two images: one to render into, and one of a single sample
that a pass **resolves** the first one into. Only images of a single sample are ever sampled. The
depth buffer, if there is one, is an image with as many samples as the first.

## Images

An image is made with its memory and a view of all of it, and given up with them. If one of the
three cannot be made, those made before it are given up.

## Commands that run at once

Some work is done outside of frames: it is recorded into a command buffer of its own, handed over
and waited for. The command buffer is given back however that ends.
-/

namespace RenderTargets.Vulkan

open Log

/-! ### Images -/

/-- An image that can be used. -/
structure Image where
  /-- The pixels. -/
  image : Object .image
  /-- The view. -/
  view : Object .view
  /-- The memory. -/
  memory : Object .memory
  deriving DecidableEq, Inhabited, Repr

/-- Images may be rendered into as color. -/
def usageColor : Flags := 0x10
/-- Images may be rendered into as depth. -/
def usageDepth : Flags := 0x20
/-- Images may be sampled. -/
def usageSampled : Flags := 0x4
/-- Images may be copied into. -/
def usageCopyTarget : Flags := 0x2

namespace Image

/-- Puts memory behind an image and makes the view. -/
def complete (name : String) (image : Object .image) (info : ImageInfo) (aspect : Flags)
    (memory : Object .memory) : Run Image := do
  Run.work s!"bind memory of image '{name}'"
    (Driver.perform .bindImageMemory (.bindImageMemory image))
  let view ← Run.work s!"create view of image '{name}'"
    (Driver.create .createView (.createView · ⟨image.any, info.format, aspect⟩))
  return { image, view, memory }

/-- Makes an image. -/
def create (name : String) (info : ImageInfo) (aspect : Flags) : Run Image := do
  let image ← Run.work s!"create image '{name}'"
    (Driver.create .createImage (.createImage · info))
  Run.share
  let discard : Run Unit := do
    Run.destroy image
    Run.unshare
  StepWith.undoing
    (do
      let memory ← allocate name .imageMemory imageSize
      StepWith.undoing (complete name image info aspect memory) (free memory))
    discard

/-- Gives an image up. -/
def drop (i : Image) : Run Unit := do
  Run.destroy i.view
  free i.memory
  Run.destroy i.image
  Run.unshare

/-- Gives an image up, if there is one. -/
def dropOption : Option Image → Run Unit
  | some i => i.drop
  | none => pure ()

/-- Makes a depth buffer. -/
def createDepth (ctx : Context) (name : String) (extent : Extent) (format : Format)
    (samples : Flags) : Run Image :=
  create name ⟨ctx.formatCode format, extent, samples, usageDepth⟩ (depthAspect format)

end Image

/-! ### Commands that run at once -/

/-- Records, hands over and waits for commands. -/
def recordAndWait (ctx : Context) (buffer : Object .commandBuffer)
    (commands : Object .commandBuffer → Run Unit) : Run Unit := do
  Run.work "begin upload command buffer"
    (Driver.perform .beginCommandBuffer (.beginCommandBuffer buffer))
  commands buffer
  Run.work "end upload command buffer"
    (Driver.perform .endCommandBuffer (.endCommandBuffer buffer))
  Run.work "submit upload commands"
    (Driver.perform .submit (.submit ctx.queue ⟨[], buffer, []⟩ .null))
  Run.work "wait for upload commands" (Driver.perform .waitQueue (.waitQueue ctx.queue))

/-- Runs commands at once. -/
def runAtOnce (ctx : Context) (commands : Object .commandBuffer → Run Unit) : Run Unit := do
  let buffer ← Run.work "allocate upload command buffer"
    (Driver.create .allocateCommandBuffers (.allocateCommandBuffer · ctx.uploadPool))
  let result ← StepWith.attempt (recordAndWait ctx buffer commands)
  Run.changeDriver (·.push (.freeCommandBuffer ctx.uploadPool buffer))
  StepWith.ofChecked (Checked.ofExcept result)

/-! ### Textures -/

/-- A texture. -/
structure Texture where
  /-- Name for messages. -/
  name : String
  /-- Size. -/
  extent : Extent
  /-- Color format. -/
  format : Format
  /-- Samples per pixel. -/
  samples : UInt32
  /-- What it is for. -/
  usage : TextureUsage
  /-- The image rendered into. -/
  color : Image
  /-- The image resolved into. -/
  resolve : Option Image
  /-- The depth buffer and its format. -/
  depth : Option (Format × Image)
  /-- A pass resolved the texture. -/
  resolved : Bool := false
  deriving DecidableEq, Inhabited, Repr

namespace Texture

/-- The image that shaders read, if they can read any. -/
def sampledImage? (t : Texture) : Option Image :=
  if t.usage = .renderTarget then none
  else if t.samples > 1 then t.resolve
  else some t.color

/-- The view that shaders read. -/
def sampledView? (t : Texture) : Option (Object .view) := t.sampledImage?.map (·.view)

/-- There is something to read: an image that was resolved if it has to be. -/
def isSampleable (t : Texture) : Bool :=
  t.sampledImage?.isSome && (t.samples == 1 || t.resolved)

/-- The format of the depth buffer. -/
def depthFormat? (t : Texture) : Option Format := t.depth.map (·.1)

/-- The view of the depth buffer. -/
def depthView? (t : Texture) : Option (Object .view) := t.depth.map (·.2.view)

/-- What the image rendered into is for. -/
def colorUsage (usage : TextureUsage) (samples : UInt32) : Flags :=
  let rendered := if usage.isRendered then usageColor else 0
  let sampled := if usage.isSampled && samples ≤ 1 then usageSampled else 0
  let either := rendered ||| sampled
  (if either = 0 then usageSampled else either) ||| usageCopyTarget

/-- Makes the depth buffer, if one is asked for. -/
def createDepth (ctx : Context) (d : TextureDesc) (samples : Flags) :
    Run (Option (Format × Image)) := do
  match d.depth with
  | none => return none
  | some format =>
    let image ← Image.createDepth ctx s!"{d.name}_depth" ⟨d.width, d.height⟩ format samples
    return some (format, image)

/-- Makes the image to resolve into, if one is needed. -/
def createResolve (ctx : Context) (d : TextureDesc) : Run (Option Image) := do
  if d.samples > 1 && d.usage.isSampled then
    return some (← Image.create s!"{d.name}_resolve"
      ⟨ctx.formatCode d.format, ⟨d.width, d.height⟩, 1, usageColor ||| usageSampled⟩ colorAspect)
  else
    return none

/-- Makes the images of a texture. -/
def createImages (ctx : Context) (d : TextureDesc) (samples : Flags) : Run Texture := do
  let usage := colorUsage d.usage d.samples
  let color ← Image.create d.name
    ⟨ctx.formatCode d.format, ⟨d.width, d.height⟩, samples, usage⟩ colorAspect
  StepWith.undoing
    (do
      let resolve ← createResolve ctx d
      let depth ← StepWith.undoing (createDepth ctx d samples) (Image.dropOption resolve)
      return {
        name := d.name
        extent := ⟨d.width, d.height⟩
        format := d.format
        samples := d.samples
        usage := d.usage
        color, resolve, depth })
    color.drop

/-- Gives a texture up. -/
def drop (t : Texture) : Run Unit := do
  t.color.drop
  Image.dropOption t.resolve
  Image.dropOption (t.depth.map (·.2))

/-- Gets the image that shaders read ready, so that it can be bound before anything was rendered
into it. -/
def prepareForSampling (ctx : Context) (t : Texture) : Run Unit :=
  match t.sampledImage? with
  | none => pure ()
  | some i => runAtOnce ctx fun buffer ↦ Run.record buffer (.prepareForSampling i.image)

/-- Makes a texture. -/
def create (ctx : Context) (d : TextureDesc) : Run Texture := do
  StepWith.ofChecked ((Checked.ofExcept d.validate).mapError fun e ↦ .invalid (.texture d.name e))
  match sampleFlag? d.samples with
  | none => refuse source (.sampleCount .texture d.name d.samples)
  | some samples =>
    let texture ← createImages ctx d samples
    StepWith.undoing (texture.prepareForSampling ctx) texture.drop
    return texture

end Texture

end RenderTargets.Vulkan
