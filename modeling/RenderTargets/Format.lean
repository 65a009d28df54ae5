/-!
# Pixel formats

The formats of surfaces and of the screen: four for color, four for depth.
-/

namespace RenderTargets

/-- A pixel format. -/
inductive Format where
  /-- Four bytes, red first, with the transfer curve of displays. -/
  | rgba8Srgb
  /-- Four bytes, red first, linear. -/
  | rgba8Unorm
  /-- Four bytes, blue first, with the transfer curve of displays. -/
  | bgra8Srgb
  /-- Four bytes, blue first, linear. -/
  | bgra8Unorm
  /-- Depth as a fraction of 16 bits. -/
  | depth16
  /-- Depth as a single. -/
  | depth32
  /-- Depth as a fraction of 24 bits, with eight bits of stencil. -/
  | depth24Stencil8
  /-- Depth as a single, with eight bits of stencil. -/
  | depth32Stencil8
  deriving DecidableEq, Inhabited, Repr

namespace Format

/-- Every format. -/
def all : List Format :=
  [rgba8Srgb, rgba8Unorm, bgra8Srgb, bgra8Unorm, depth16, depth32, depth24Stencil8, depth32Stencil8]

/-- The name in messages. -/
def name : Format → String
  | rgba8Srgb => "R8G8B8A8_SRGB"
  | rgba8Unorm => "R8G8B8A8_UNORM"
  | bgra8Srgb => "B8G8R8A8_SRGB"
  | bgra8Unorm => "B8G8R8A8_UNORM"
  | depth16 => "D16_UNORM"
  | depth32 => "D32_FLOAT"
  | depth24Stencil8 => "D24_UNORM_S8_UINT"
  | depth32Stencil8 => "D32_FLOAT_S8_UINT"

/-- The format holds depth. -/
def isDepth : Format → Bool
  | depth16 | depth32 | depth24Stencil8 | depth32Stencil8 => true
  | _ => false

/-- The format holds stencil bits. -/
def hasStencil : Format → Bool
  | depth24Stencil8 | depth32Stencil8 => true
  | _ => false

/-- Bytes of a pixel. -/
def bytesPerPixel : Format → Nat
  | depth16 => 2
  | depth32Stencil8 => 8
  | _ => 4

end Format

end RenderTargets
