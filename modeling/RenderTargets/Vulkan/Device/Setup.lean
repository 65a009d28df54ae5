import RenderTargets.Vulkan.Config
import RenderTargets.Vulkan.Device.Basic
/-!
# Setting a device up

A device needs a connection to the driver, a surface of the window, a GPU that can draw to it, and
the screen with its frames. Of these only frames and screen are given up if a later one is not to be
had; the rest stays with the driver.

## Which GPU

A GPU has to have a family of queues that can draw and show images on the surface. The first of
those with the highest rank is taken: dedicated GPUs before integrated ones before all others.
-/

namespace RenderTargets.Vulkan

open Log

/-- The layer that validates. -/
def validationLayer : String := "VK_LAYER_KHRONOS_validation"

/-- The extension for validation messages. -/
def messageExtension : String := "VK_EXT_debug_utils"

/-- A queue can draw. -/
def queueDraws : Flags := 1

/-- Command buffers can be recorded again. -/
def poolResets : Flags := 2

/-- Command buffers are short-lived. -/
def poolTransient : Flags := 1

/-- A GPU that was taken, with the family of its queue. -/
structure Choice where
  /-- The GPU by its object. -/
  object : Object .gpu
  /-- The GPU. -/
  gpu : Gpu
  /-- Position of the family. -/
  family : Nat
  deriving DecidableEq, Inhabited, Repr

namespace Gpu

/-- The first family that can draw and show images. -/
def family? (g : Gpu) : Option Nat :=
  g.families.findIdx? fun f ↦ Flags.contains f.flags queueDraws && f.presents.getD false

/-- How much a GPU is wanted. -/
def rank (g : Gpu) : Nat :=
  if g.type = 2 then 2 else if g.type = 1 then 1 else 0

/-- The better one of what was found so far and a GPU. -/
def better (best : Option Choice) (object : Object .gpu) (g : Gpu) : Option Choice :=
  match g.family? with
  | none => best
  | some family =>
    if best.all (·.gpu.rank < g.rank) then some ⟨object, g, family⟩ else best

/-- The best of some GPUs, of which the first has number `n`. -/
def best (found : Option Choice) : (n : Nat) → List Gpu → Option Choice
  | _, [] => found
  | n, g :: rest => best (better found ⟨n⟩ g) (n + 1) rest

/-- The number of the format that stands for depth of 24 bits with stencil. -/
def depthCode (g : Gpu) : Code :=
  formatCode (if g.hasDepth24 then .depth24Stencil8 else .depth32Stencil8)

end Gpu

namespace Device

/-! ### Before there is a GPU -/

/-- The display of a window. -/
def displayOf (w : Window) : Run WindowSystem :=
  match w.display with
  | .ok s => return s
  | .error p =>
    Run.giveUp s!"Failed to get display handle: {p.message}" (.window "display handle" p.message)

/-- The extensions that the display needs. -/
def extensionsOf (display : WindowSystem) : Run (List String) :=
  match Window.requiredExtensions display with
  | .ok l => return l
  | .error problem =>
    Run.giveUp s!"Failed to get required extensions: {problem}"
      (.window "required extensions" problem)

/-- Whether to validate: it is wanted and the layer is there. -/
def decideValidation (config : Config) (builtIn : Bool) : Run Bool := do
  if !config.validationActive builtIn then return false
  let layers := (← get).driver.layers
  let found ← Run.driving (Driver.enumerate .enumerateLayers layers)
  let names := (found.toOption.getD []).map nameInField?
  if names.contains (some validationLayer) then return true
  note .warn source s!"{validationLayer} not installed, validation disabled"
  return false

/-- Connects to the driver. -/
def connect (config : Config) (extensions : List String) (validate : Bool) :
    Run (Object .connection) :=
  let info : ConnectionInfo :=
    { appName := config.appName
      layers := if validate then [validationLayer] else []
      extensions := if validate then extensions ++ [messageExtension] else extensions }
  Run.setUp "create Vulkan instance" "create instance"
    (Driver.create .createConnection (.createConnection · info))

/-- Has validation messages reported. -/
def listen (config : Config) : Run (Object .messenger) := do
  let reports : Validation.Config := ⟨config.level, config.output, true, config.breakOnError⟩
  modify fun h ↦ { h with messenger := h.messenger.install reports }
  Run.setUp "create debug messenger" "create debug messenger"
    (Driver.createMessenger config.level.flags)

/-- Makes the surface of a window. -/
def createSurface (w : Window) (display : WindowSystem) : Run (Object .surface) := do
  match w.window with
  | .error p =>
    Run.giveUp s!"Failed to get window handle: {p.message}" (.window "window handle" p.message)
  | .ok window =>
    match Window.surfaceSystem display window w.connected with
    | .error code =>
      Run.giveUp s!"Failed to create surface: {code.text}" (.driver "create surface" code)
    | .ok system =>
      Run.setUp "create surface" "create surface"
        (Driver.create (.createSurface system) (.createSurface system))

/-- Takes a GPU. -/
def pickGpu : Run Choice := do
  let gpus := (← get).driver.gpus
  let found ← Run.setUp "enumerate physical devices" "enumerate physical devices"
    (Driver.enumerate .enumerateGpus gpus)
  match Gpu.best none 1 found with
  | some c => return c
  | none => Run.giveUp "No GPU can render to this window" .noGpu

/-! ### With a GPU -/

/-- Takes a GPU into use, with a pool for uploads and one for frames. -/
def openGpu (c : Choice) : Run (Context × Object .commandPool) := do
  let device ← Run.setUp "create logical device" "create device"
    (Driver.create .createDevice (.createDevice · c.object c.family))
  let queue ← Run.driving (·.fresh .queue)
  let uploadPool ← Run.setUp "create upload command pool" "create upload command pool"
    (Driver.create .createCommandPool
      (.createCommandPool · c.family (poolTransient ||| poolResets)))
  let framePool ← Run.setUp "create frame command pool" "create frame command pool"
    (Driver.create .createCommandPool (.createCommandPool · c.family poolResets))
  let reflect := (← get).reflect
  return ({ device, queue, uploadPool, depthCode := c.gpu.depthCode, reflect }, framePool)

/-- Makes the screen and the sampler. -/
def createScreen (ctx : Context) (surface : Object .surface) (size : Extent) (vsync : Bool)
    (frames : Nat) : Run (Swapchain × Object .sampler) := do
  let screen ← Swapchain.create ctx surface size vsync frames
  let sampler ← StepWith.undoing
    (Run.setUp "create sampler" "create sampler" (Driver.create .createSampler .createSampler))
    (screen.drop ctx)
  return (screen, sampler)

/-- Notes what the device can do. -/
def announce (c : Choice) (found : Capabilities) : Run Unit := do
  let name := (nameInField? c.gpu.name).getD ""
  note .info source
    (s!"GPU '{name}': {found.maxColors.toNat} color attachment(s), " ++
      s!"up to {found.maxSamples.toNat}x MSAA, features {found.features.text}")
  if !c.gpu.hasDepth24 then
    note .debug source "D24S8 unsupported, using D32_SFLOAT_S8_UINT"

/-- Makes a device that draws to a window of the given size. -/
def create (w : Window) (size : Extent) (config : Config) (builtIn : Bool) : Run Device := do
  if !(← get).driver.installed then
    Run.giveUp "Failed to load Vulkan library" .noDriver
  if config.appName.toList.contains '\x00' then .fail (.initialization .applicationName)
  let display ← displayOf w
  let extensions ← extensionsOf display
  let validate ← decideValidation config builtIn
  let connection ← connect config extensions validate
  let messenger ← if validate then some <$> listen config else pure none
  let surface ← createSurface w display
  let choice ← pickGpu
  let capabilities := choice.gpu.limits.capabilities config.disabled
  let (context, framePool) ← openGpu choice
  modify fun h ↦ { h with owners := 1 }
  let frames := max config.framesInFlight 1
  let slots ← FrameSlot.createMany framePool [] frames
  let (screen, sampler) ← StepWith.undoing
    (createScreen context surface size config.vsync frames) (Run.each FrameSlot.drop slots)
  announce choice capabilities
  return { context, connection, messenger, capabilities, screen, framePool, slots, sampler
           windowSize := size }

/-! ### Giving a device up -/

/-- Gives all resources up, those made from others first. -/
def dropResources (d : Device) : Run Unit := do
  Run.each Pass.drop d.passes.values
  Run.each Pipeline.drop d.pipelines.values
  Run.each Shader.drop d.shaders.values
  Run.each Mesh.drop d.meshes.values
  Run.each Texture.drop d.textures.values

/-- Gives a device up with all that belongs to it. -/
def drop (d : Device) : Run Unit := do
  Run.tryOut (Driver.perform .waitDevice (.waitDevice d.context.device))
  d.dropResources
  Run.each FrameSlot.drop d.slots
  d.screen.drop d.context
  Run.destroy d.sampler
  Run.destroy d.framePool
  Run.destroy d.context.uploadPool
  if (← get).owners ≠ 1 then
    note .warn source "GPU context still shared at shutdown, leaking allocator"
  modify fun h ↦ { h with messenger := h.messenger.uninstall }
  Run.each Run.destroy d.messenger.toList
  Run.destroy d.context.device
  Run.destroy d.connection

end Device

end RenderTargets.Vulkan
