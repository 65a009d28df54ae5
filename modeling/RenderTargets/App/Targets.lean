import RenderTargets.App.Arena
import RenderTargets.App.Capability
/-!
# The surfaces of the scene

Three surfaces of one size and sample count and the pass that renders into all of them. The first
one has the depth buffer of the pass. The surfaces are sampled later, so a pass with several samples
per pixel resolves them.

Either all four resources are made and tracked, or none of them is left.
-/

namespace RenderTargets.App

open Log

/-- Format of the depth buffer. -/
def targetDepthFormat : Format := .depth24Stencil8

/-- Format of the surfaces. -/
def targetColorFormat : Format := .rgba8Unorm

/-- The surfaces and their pass. -/
structure Targets where
  /-- The surface with the depth buffer. -/
  first : TextureId
  /-- The second surface. -/
  second : TextureId
  /-- The third surface. -/
  third : TextureId
  /-- The pass into them. -/
  pass : PassId
  /-- Samples per pixel. -/
  samples : UInt32
  deriving DecidableEq, Inhabited, Repr

/-- The three surfaces in the order of the attachments. -/
def Targets.surfaces (t : Targets) : List TextureId := [t.first, t.second, t.third]

/-- What the surfaces are like. -/
structure TargetsBuilder where
  /-- Pixels across. -/
  width : UInt32
  /-- Pixels down. -/
  height : UInt32
  /-- Samples per pixel. -/
  samples : UInt32
  /-- Color that each is cleared to. -/
  clearColors : List Vec4 := [.black, .black, .black]
  deriving DecidableEq, Inhabited, Repr

namespace TargetsBuilder

/-- Surfaces of a size, with one sample per pixel at least. -/
def ofSize (width height samples : UInt32) : TargetsBuilder :=
  { width, height, samples := max samples 1 }

/-- What becomes of the surfaces when the pass ends. -/
def storeAction (b : TargetsBuilder) : StoreAction := if b.samples > 1 then .resolve else .store

/-- Description of the surface at `i`. -/
def surfaceDesc (b : TargetsBuilder) (i : Nat) : TextureDesc :=
  { TextureDesc.renderTarget b.width b.height with
    name := s!"mrt_surface_{i}"
    samples := b.samples
    depth := if i = 0 then some targetDepthFormat else none }

/-- Description of the pass into three surfaces. -/
def passDesc (b : TargetsBuilder) (first second third : TextureId) : PassDesc :=
  let d := PassDesc.ofTargets [first, second, third] (some first)
  { d with
    name := "mrt_pass"
    colors := List.zipWith (fun a c ↦ { a with clearColor := c }) d.colors b.clearColors
    store := b.storeAction }

variable {σ : Type} [GraphicsDevice σ]

/-- Makes and tracks the surface at `i`. -/
def createSurface (b : TargetsBuilder) (i : Nat) : Step (Arena × σ) TextureId := do
  let id ← StepWith.within .snd (GraphicsDevice.createTexture (b.surfaceDesc i) : Step σ TextureId)
  Arena.track (.texture id)
  return id

/-- Makes and tracks the surfaces and the pass. -/
def create (b : TargetsBuilder) : Step (Arena × σ) Targets := do
  let first ← b.createSurface 0
  let second ← b.createSurface 1
  let third ← b.createSurface 2
  let pass ← StepWith.within .snd
    (GraphicsDevice.createPass (b.passDesc first second third) : Step σ PassId)
  Arena.track (.pass pass)
  return ⟨first, second, third, pass, b.samples⟩

/-- The name under which the builder writes to the journal. -/
def source : String := "mrt::pass"

/-- Makes the surfaces and the pass, or nothing. -/
def build (b : TargetsBuilder) : Step (Arena × σ) Targets := do
  let limit := GraphicsDevice.maxColors (← get).2
  if limit.toNat < targetCount then
    .fail (.invalid (.tooFewAttachments targetCount limit))
  let mark := (← get).1.length
  match ← StepWith.attempt (b.create : Step (Arena × σ) Targets) with
  | .ok targets =>
    note .info source (s!"multi-target pass built: {targetCount} surfaces " ++
      s!"{b.width.toNat}x{b.height.toNat}, {b.samples.toNat} samples, {b.storeAction.name}")
    return targets
  | .error e =>
    match ← StepWith.attempt (Arena.rollbackTo mark : Step (Arena × σ) Nat) with
    | .ok _ => pure ()
    | .error r => note .error source s!"rollback after failed pass build failed: {r.message}"
    .fail e

end TargetsBuilder

end RenderTargets.App
