import RenderTargets.Vulkan.Pass
/-!
# The screen

The images of the window form a swapchain. The pass into the screen renders straight into one of
them, with one depth buffer for all.

## When it is built anew

A swapchain that no longer fits its surface is marked, by the driver's answers or because the window
changed its size, and built anew when the next frame needs an image. Its pass stays, so that
pipelines stay good. A window without any pixels has no swapchain: building it is put off.

## Half of a swapchain

Building goes on step by step in the state, so that a swapchain of which only a part could be made
is given up, or built anew, like a whole one.
-/

namespace RenderTargets.Vulkan

open Log

/-- The depth buffer of the screen. -/
def screenDepthFormat : Format := .depth24Stencil8

/-- The screen. -/
structure Swapchain where
  /-- What the window offers for drawing on. -/
  surface : Object .surface
  /-- The pass into the screen. -/
  renderPass : Object .renderPass
  /-- Format of the images. -/
  surfaceFormat : SurfaceFormat
  /-- The same as a format of the engine. -/
  colorFormat : Format
  /-- Size of the images. -/
  extent : Extent
  /-- Images are shown in step with the screen. -/
  vsync : Bool
  /-- The swapchain; null before there is one. -/
  swapchain : Object .swapchain := .null
  /-- Its images. -/
  images : List (Object .screenImage) := []
  /-- Views of the images. -/
  views : List (Object .view) := []
  /-- The depth buffer. -/
  depth : Option Image := none
  /-- Each image with the depth buffer. -/
  framebuffers : List (Object .framebuffer) := []
  /-- For each frame ahead of the GPU, what tells that its image is there. -/
  imageAvailable : List (Object .semaphore) := []
  /-- For each image, what tells that it can be shown. -/
  renderFinished : List (Object .semaphore) := []
  /-- The swapchain no longer fits. -/
  needsRebuild : Bool := false
  deriving DecidableEq, Inhabited, Repr

namespace Swapchain

/-- Marks the swapchain as one that no longer fits. -/
def mark (s : Swapchain) : Swapchain := { s with needsRebuild := true }

/-! ### Giving up -/

/-- Gives up what belongs to the images. The swapchain itself stays. -/
def releaseImages (s : Swapchain) : Run Swapchain := do
  Run.each Run.destroy s.framebuffers
  Run.each Run.destroy s.views
  Image.dropOption s.depth
  return { s with framebuffers := [], views := [], depth := none, images := [] }

/-- Gives the screen up. -/
def drop (ctx : Context) (s : Swapchain) : Run Unit := do
  Run.tryOut (Driver.perform .waitDevice (.waitDevice ctx.device))
  let s ← s.releaseImages
  Run.each Run.destroy (s.imageAvailable ++ s.renderFinished)
  Run.destroy s.swapchain
  Run.destroy s.renderPass
  Run.destroy s.surface
  Run.unshare

/-! ### Building -/

/-- What the driver is asked for. -/
def infoOf (s : Swapchain) (c : SurfaceCapabilities) (modes : List Code) (extent : Extent) :
    Option SwapchainInfo := do
  let minImages ← chooseImageCount? c
  return {
    surface := s.surface
    minImages
    format := s.surfaceFormat
    extent
    transform := c.transform
    mode := choosePresentMode modes s.vsync
    old := s.swapchain }

/-- Makes a swapchain of the given size in the place of the one there was. -/
def replace (c : SurfaceCapabilities) (modes : List Code) (extent : Extent) :
    RunOn Swapchain Unit := do
  let s ← RunOn.part
  let info ← StepWith.orTrap (s.infoOf c modes extent)
  let swapchain ← Run.setUp "create swapchain" "create swapchain" (Driver.createSwapchain info)
  Run.destroy s.swapchain
  RunOn.change ({ · with swapchain, extent })
  let images ← Run.setUp "get swapchain images" "get swapchain images"
    (Driver.swapchainImages swapchain)
  RunOn.change ({ · with images })

/-- Makes a view of each image. -/
def addViews : List (Object .screenImage) → RunOn Swapchain Unit
  | [] => pure ()
  | image :: rest => do
    let format := (← RunOn.part).surfaceFormat.format
    let view ← Run.setUp "create swapchain image view" "create image view"
      (Driver.create .createView (.createView · ⟨image.any, format, colorAspect⟩))
    RunOn.change fun s ↦ { s with views := s.views ++ [view] }
    addViews rest

/-- Puts each view together with the depth buffer. -/
def addFramebuffers (depth : Image) : List (Object .view) → RunOn Swapchain Unit
  | [] => pure ()
  | view :: rest => do
    let s ← RunOn.part
    let framebuffer ← createFramebuffer s.renderPass [view, depth.view] s.extent
    RunOn.change fun s ↦ { s with framebuffers := s.framebuffers ++ [framebuffer] }
    addFramebuffers depth rest

/-- Makes the depth buffer and the framebuffers. -/
def addDepth (ctx : Context) : RunOn Swapchain Unit := do
  let s ← RunOn.part
  let depth ← Image.createDepth ctx "screen_depth" s.extent screenDepthFormat 1
  StepWith.undoing (addFramebuffers depth s.views) depth.drop
  RunOn.change ({ · with depth := some depth })

/-- Makes `n` more of what tells that an image can be shown. -/
def addRenderFinished : (n : Nat) → RunOn Swapchain Unit
  | 0 => pure ()
  | n + 1 => do
    let semaphore ← Run.setUp "create render-finished semaphore" "create semaphore"
      (Driver.create .createSemaphore .createSemaphore)
    RunOn.change fun s ↦ { s with renderFinished := s.renderFinished ++ [semaphore] }
    addRenderFinished n

/-- Makes the swapchain and all that belongs to its images, unless the window has no pixels. -/
def build (ctx : Context) (size : Extent) : RunOn Swapchain Unit := do
  let offer := (← get).2.driver.surface
  let c ← Run.setUp "get surface capabilities" "get surface capabilities"
    (Driver.query .surfaceCapabilities offer.capabilities)
  let modes ← Run.driving (Driver.enumerate .presentModes offer.modes)
  let extent ← StepWith.orTrap (chooseExtent? c size.width size.height)
  if extent.width = 0 ∨ extent.height = 0 then
    note .warn source "Surface has a zero extent, postponing swapchain creation"
    RunOn.change mark
  else
    replace c (modes.toOption.getD []) extent
    addViews (← RunOn.part).images
    addDepth ctx
    let s ← RunOn.part
    addRenderFinished (s.images.length - s.renderFinished.length)

/-- Makes `n` of what tells that an image is there. -/
def addImageAvailable : (n : Nat) → RunOn Swapchain Unit
  | 0 => pure ()
  | n + 1 => do
    let semaphore ← Run.setUp "create image-available semaphore" "create semaphore"
      (Driver.create .createSemaphore .createSemaphore)
    RunOn.change fun s ↦ { s with imageAvailable := s.imageAvailable ++ [semaphore] }
    addImageAvailable n

/-- The layout of the pass into the screen. -/
def passLayout (ctx : Context) (format : Code) : PassLayout :=
  { colors := [(format, layoutPresent)]
    samples := 1
    depthFormat := some (ctx.formatCode screenDepthFormat)
    resolve := false
    colorStore := storeStore }

/-- Takes a format for the screen. -/
def pickFormat : Run (SurfaceFormat × Format) := do
  let offer := (← get).driver.surface
  let formats ← Run.setUp "query surface formats" "get surface formats"
    (Driver.enumerate .surfaceFormats offer.formats)
  let picked := do
    let f ← chooseSurfaceFormat formats
    return (f, ← formatOfCode? f.format)
  match picked with
  | some p => return p
  | none => Run.giveUp "Surface offers no 8-bit RGBA/BGRA format" .noSurfaceFormat

/-- Makes the screen of a surface for some frames ahead of the GPU. -/
def create (ctx : Context) (surface : Object .surface) (size : Extent) (vsync : Bool)
    (frames : Nat) : Run Swapchain := do
  let (surfaceFormat, colorFormat) ← pickFormat
  let renderPass ← createRenderPass (passLayout ctx surfaceFormat.format)
  Run.share
  RunOn.construct { surface, renderPass, surfaceFormat, colorFormat, extent := size, vsync }
    (do
      addImageAvailable frames
      build ctx size)
    (drop ctx)

/-- Builds the swapchain anew for a size of the window. -/
def rebuild (ctx : Context) (size : Extent) : RunOn Swapchain Unit := do
  Run.work "wait idle before swapchain recreate"
    (Driver.perform .waitDevice (.waitDevice ctx.device))
  let s ← releaseImages (← RunOn.part)
  RunOn.change fun _ ↦ s
  build ctx size
  RunOn.change ({ · with needsRebuild := false })
  let extent := (← RunOn.part).extent
  note .debug source
    s!"Swapchain recreated at {extent.width.toNat}x{extent.height.toNat}"

/-! ### Frames -/

/-- What tells that the image of a frame is there. -/
def imageAvailable? (s : Swapchain) (frame : Nat) : Option (Object .semaphore) :=
  s.imageAvailable[frame % s.imageAvailable.length]?

/-- The image to render into, if the swapchain still fits. -/
def acquire (frame : Nat) : RunOn Swapchain (Option Nat) := do
  let s ← RunOn.part
  let semaphore ← StepWith.orTrap (s.imageAvailable? frame)
  match ← Run.driving (Driver.acquire s.swapchain semaphore) with
  | .ok (index, code) =>
    if code = .suboptimal then RunOn.change mark
    if code = .success ∨ code = .suboptimal then return some index
    refuse source (.driver "acquire next swapchain image" code)
  | .error code =>
    if code = .outOfDate then
      RunOn.change mark
      return none
    refuse source (.driver "acquire next swapchain image" code)

/-- Shows an image. -/
def present (ctx : Context) (index : Nat) : RunOn Swapchain Unit := do
  let s ← RunOn.part
  let wait ← StepWith.orTrap s.renderFinished[index]?
  let code ← Run.driving (Driver.present ctx.queue wait s.swapchain index)
  if code = .suboptimal ∨ code = .outOfDate then RunOn.change mark
  else if code ≠ .success then refuse source (.driver "present swapchain image" code)

end Swapchain

end RenderTargets.Vulkan
