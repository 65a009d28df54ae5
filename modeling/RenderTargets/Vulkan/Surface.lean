import RenderTargets.Vulkan.Enum
import RenderTargets.Vulkan.ResultCode
import RenderTargets.Vulkan.Viewport
/-!
# Windows and their surfaces

A device draws on a window of some window system. Its display and the window itself are handles that
may not be there, and each window system needs an extension of the driver of its own.

The window has a surface, which offers some formats, ways of showing images, sizes and numbers of
images. One of each is taken.
-/

namespace RenderTargets.Vulkan

/-! ### Windows -/

/-- A window system. -/
inductive WindowSystem where
  /-- X11 through its first library. -/
  | xlib
  /-- X11 through its second library. -/
  | xcb
  /-- Wayland. -/
  | wayland
  /-- A browser, for which there is no extension. -/
  | web
  deriving DecidableEq, Inhabited, Repr

/-- The extension for surfaces of a window system. -/
def WindowSystem.surfaceExtension? : WindowSystem → Option String
  | xlib => some "VK_KHR_xlib_surface"
  | xcb => some "VK_KHR_xcb_surface"
  | wayland => some "VK_KHR_wayland_surface"
  | web => none

/-- Why a handle is not to be had. -/
inductive HandleProblem where
  /-- It is not there at the moment. -/
  | unavailable
  /-- It is of a kind without a name. -/
  | notSupported
  deriving DecidableEq, Inhabited, Repr

/-- The problem in words. -/
def HandleProblem.message : HandleProblem → String
  | unavailable => "the underlying handle is not available"
  | notSupported =>
    "the underlying handle cannot be represented using the types in this crate"

/-- A window. -/
structure Window where
  /-- The window system of the display. -/
  display : Except HandleProblem WindowSystem
  /-- The window system of the window. -/
  window : Except HandleProblem WindowSystem
  /-- The display is connected. -/
  connected : Bool := true

namespace Window

/-- The extensions that drawing on the window needs. -/
def requiredExtensions (display : WindowSystem) : Except String (List String) :=
  match display.surfaceExtension? with
  | some e => .ok ["VK_KHR_surface", e]
  | none => .error "Extension specified does not exist"

/-- The window system to make a surface for, unless display and window do not go together. -/
def surfaceSystem (display window : WindowSystem) (connected : Bool) :
    Except ResultCode WindowSystem :=
  if display = window ∧ display ≠ .web then
    if connected then .ok display else .error .initializationFailed
  else .error .extensionNotPresent

end Window

/-! ### Surfaces -/

/-- A format and how its numbers become light. -/
structure SurfaceFormat where
  /-- The format. -/
  format : Code
  /-- The color space. -/
  colorSpace : Code
  deriving DecidableEq, Inhabited, Repr

/-- What a surface can do at a time. -/
structure SurfaceCapabilities where
  /-- Fewest images. -/
  minImages : UInt32
  /-- Most images; zero for any number. -/
  maxImages : UInt32
  /-- The size of the window, or undefined. -/
  currentExtent : Extent
  /-- Smallest size. -/
  minExtent : Extent
  /-- Largest size. -/
  maxExtent : Extent
  /-- How the screen is turned. -/
  transform : Flags
  deriving DecidableEq, Inhabited, Repr

/-- The formats to take, the best first. -/
def preferredFormats : List Code := [50, 43, 44, 37]

/-- The first format of the best kind offered. -/
def chooseSurfaceFormat (available : List SurfaceFormat) : Option SurfaceFormat :=
  preferredFormats.findSome? fun c ↦ available.find? (·.format == c)

/-- Images are shown at once. -/
def presentImmediate : Code := 0
/-- The latest image is shown with the next refresh. -/
def presentMailbox : Code := 1
/-- Every image is shown, one with each refresh. -/
def presentFifo : Code := 2

/-- How images are shown. Only `presentFifo` is sure to be offered. -/
def choosePresentMode (available : List Code) (vsync : Bool) : Code :=
  if vsync then presentFifo
  else ([presentMailbox, presentImmediate].find? available.contains).getD presentFifo

/-- The number brought into a range, which may not be empty. -/
def clamp? (n lo hi : UInt32) : Option UInt32 :=
  if lo ≤ hi then some (if n < lo then lo else if hi < n then hi else n) else none

/-- The size of the window, or the wanted size brought into the range of the surface. -/
def chooseExtent? (c : SurfaceCapabilities) (width height : UInt32) : Option Extent := do
  if c.currentExtent.width ≠ 0xffffffff then return c.currentExtent
  let width ← clamp? width c.minExtent.width c.maxExtent.width
  let height ← clamp? height c.minExtent.height c.maxExtent.height
  return ⟨width, height⟩

/-- One image more than the fewest, if there can be as many. -/
def chooseImageCount? (c : SurfaceCapabilities) : Option UInt32 := do
  let count ← Word.add? c.minImages 1
  return if c.maxImages > 0 then min count c.maxImages else count

end RenderTargets.Vulkan
