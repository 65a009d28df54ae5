import RenderTargets.Format
import RenderTargets.Number.Word
/-!
# Textures

A texture is a surface that passes render into and later passes sample. It may have several samples
per pixel and a depth buffer of its own.
-/

namespace RenderTargets

/-- What a texture is for. -/
inductive TextureUsage where
  /-- Sampled only. -/
  | sampled
  /-- Rendered into only. -/
  | renderTarget
  /-- Rendered into, then sampled by a later pass. -/
  | sampledAndRenderTarget
  deriving DecidableEq, Inhabited, Repr

namespace TextureUsage

/-- Every usage. -/
def all : List TextureUsage := [sampled, renderTarget, sampledAndRenderTarget]

/-- The name in messages. -/
def name : TextureUsage → String
  | sampled => "Sampled"
  | renderTarget => "RenderTarget"
  | sampledAndRenderTarget => "SampledAndRenderTarget"

/-- Shaders may read the texture. -/
def isSampled : TextureUsage → Bool
  | renderTarget => false
  | _ => true

/-- Passes may write the texture. -/
def isRendered : TextureUsage → Bool
  | sampled => false
  | _ => true

end TextureUsage

/-- Description of a texture. -/
structure TextureDesc where
  /-- Name for messages. -/
  name : String
  /-- Pixels across. -/
  width : UInt32
  /-- Pixels down. -/
  height : UInt32
  /-- Color format. -/
  format : Format
  /-- What it is for. -/
  usage : TextureUsage
  /-- Samples per pixel. -/
  samples : UInt32
  /-- Format of its depth buffer, if it has one. -/
  depth : Option Format
  deriving DecidableEq, Inhabited, Repr

/-- What can be wrong with the description of a texture. -/
inductive TextureDefect where
  /-- A side is zero. -/
  | zeroSize (width height : UInt32)
  /-- The sample count is not a power of two up to 64. -/
  | sampleCount (samples : UInt32)
  /-- The color format holds depth. -/
  | depthAsColor (format : Format)
  /-- The depth format holds none. -/
  | colorAsDepth (format : Format)
  /-- The device has fewer samples. -/
  | tooManySamples (samples limit : UInt32)
  deriving DecidableEq, Repr

/-- The words after the name of the texture. -/
def TextureDefect.message : TextureDefect → String
  | zeroSize w h => s!"has zero size ({w.toNat}x{h.toNat})"
  | sampleCount n => s!"has invalid sample count {n.toNat}"
  | depthAsColor f => s!"color format {f.name} is a depth format"
  | colorAsDepth f => s!"depth format {f.name} is not a depth format"
  | tooManySamples n limit => s!"wants {n.toNat} samples, device supports {limit.toNat}"

namespace TextureDesc

/-- A sampled render target of one sample and no depth. -/
def renderTarget (width height : UInt32) : TextureDesc :=
  { name := "", width, height, format := .rgba8Unorm, usage := .sampledAndRenderTarget
    samples := 1, depth := none }

/-- The description is consistent in itself. -/
def validate (t : TextureDesc) : Except TextureDefect Unit := do
  if t.width = 0 ∨ t.height = 0 then
    throw (.zeroSize t.width t.height)
  if !Word.isPowerOfTwo t.samples || t.samples > 64 then
    throw (.sampleCount t.samples)
  if t.format.isDepth then
    throw (.depthAsColor t.format)
  match t.depth with
  | some f => if f.isDepth then pure () else throw (.colorAsDepth f)
  | none => pure ()

end TextureDesc

end RenderTargets
