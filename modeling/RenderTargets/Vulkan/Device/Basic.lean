import RenderTargets.Vulkan.Frame
import RenderTargets.Vulkan.Mesh
import RenderTargets.Vulkan.Swapchain
/-!
# The Vulkan device

A graphics device that draws. Commands are recorded into the command buffer of a frame as they come:
the frame starts with its first pass, and committing it hands it over and shows it.

## Passes without a target

While the window cannot be drawn to, a pass into the screen has no target. Commands in it are
checked as in any other pass, but **nothing is recorded**.
-/

namespace RenderTargets.Vulkan

/-- The frame that is being recorded. -/
structure FrameState where
  /-- The image of the screen, once there is one. -/
  image : Option Nat := none
  /-- An image was asked for. -/
  asked : Bool := false
  /-- There was a pass into the screen. -/
  screenPass : Bool := false
  deriving DecidableEq, Inhabited, Repr

/-- The pass that is being recorded. -/
structure ActivePass where
  /-- Size of the target. -/
  extent : Extent
  /-- What pipelines have to match. -/
  signature : Signature
  /-- The textures rendered into. -/
  attachments : List TextureId
  /-- They are resolved when the pass ends. -/
  resolves : Bool
  /-- The pipeline in use. -/
  pipeline : Option PipelineId := none
  /-- The mesh in use. -/
  mesh : Option MeshId := none
  /-- There is a target, so commands are recorded. -/
  recording : Bool
  deriving DecidableEq, Inhabited, Repr

/-- The state of a device. -/
structure Device where
  /-- What its objects share. -/
  context : Context
  /-- The connection to the driver. -/
  connection : Object .connection
  /-- What receives validation messages, if they are wanted. -/
  messenger : Option (Object .messenger)
  /-- What it can do. -/
  capabilities : Capabilities
  /-- The screen. -/
  screen : Swapchain
  /-- Where the command buffers of frames come from. -/
  framePool : Object .commandPool
  /-- What frames are recorded with. -/
  slots : List FrameSlot
  /-- How textures are sampled. -/
  sampler : Object .sampler
  /-- Live textures. -/
  textures : TextureMap := {}
  /-- Live meshes. -/
  meshes : Slot.Map ResourceKind.mesh Mesh := {}
  /-- Live shaders. -/
  shaders : Slot.Map ResourceKind.shader Shader := {}
  /-- Live pipelines. -/
  pipelines : Slot.Map ResourceKind.pipeline Pipeline := {}
  /-- Live passes. -/
  passes : Slot.Map ResourceKind.pass Pass := {}
  /-- Size of the window. -/
  windowSize : Extent
  /-- Position of the slot in use. -/
  slotIndex : Nat := 0
  /-- The frame that is being recorded. -/
  frame : Option FrameState := none
  /-- The pass that is being recorded. -/
  active : Option ActivePass := none
  /-- The window was asked to close. -/
  quit : Bool := false
  deriving Inhabited

/-- A step of a device. -/
abbrev DeviceStep (α : Type) := RunOn Device α

namespace Device

/-- The place of the screen. -/
def screenLens : Lens Device Swapchain := ⟨Device.screen, fun s d ↦ { d with screen := s }⟩

/-- Something done with the screen. -/
def onScreen {α : Type} (x : RunOn Swapchain α) : DeviceStep α :=
  StepWith.within screenLens.beside x

/-- The slot in use. -/
def slot : DeviceStep FrameSlot := do
  let d ← RunOn.part
  StepWith.orTrap d.slots[d.slotIndex]?

/-- The device after the window changed its size. The screen is built anew with the next frame. -/
def resize (d : Device) (size : Extent) : Device :=
  { d with windowSize := size, screen := d.screen.mark }

/-- What the screen looks like. -/
def display (d : Device) : Display :=
  ⟨d.screen.extent.width, d.screen.extent.height, d.screen.colorFormat, some screenDepthFormat, 1⟩

end Device

end RenderTargets.Vulkan
