import RenderTargets.Mesh
import RenderTargets.Pass
import RenderTargets.Pipeline
import RenderTargets.Shader
/-!
# The numbers of Vulkan

What the engine names, Vulkan numbers. Enumerations are signed numbers and sets of flags are words.

Formats correspond one to one with their numbers. Sample counts are flags whose value is the count.
-/

namespace RenderTargets.Vulkan

/-- A member of an enumeration. -/
abbrev Code := Int

/-- A set of flags. -/
abbrev Flags := UInt32

/-- All flags of `b` are in `a`. -/
def Flags.contains (a b : Flags) : Bool := a &&& b == b

/-- Some flag is in both. -/
def Flags.intersects (a b : Flags) : Bool := a &&& b != 0

/-! ### Formats -/

/-- The number of a format. -/
def formatCode : Format → Code
  | .rgba8Srgb => 43
  | .rgba8Unorm => 37
  | .bgra8Srgb => 50
  | .bgra8Unorm => 44
  | .depth16 => 124
  | .depth32 => 126
  | .depth24Stencil8 => 129
  | .depth32Stencil8 => 130

/-- The format of a number, if the engine names it. -/
def formatOfCode? (c : Code) : Option Format := Format.all.find? (formatCode · == c)

/-- The numbers of a vertex component. -/
def vertexFormatCode : VertexFormat → Code
  | .single => 100
  | .pair => 103
  | .triple => 106
  | .quad => 109
  | .unsignedBytes => 37
  | .signedBytes => 38

/-- Where a shader reads an attribute. -/
def attrLocation : VertexAttr → UInt32
  | .position => 0
  | .normal => 1
  | .texCoord => 2
  | .color => 3

/-- The color part of an image. -/
def colorAspect : Flags := 1

/-- The parts of an image of a depth format. -/
def depthAspect (f : Format) : Flags := if f.hasStencil then 6 else 2

/-! ### Drawing -/

/-- The number of an index type; none without indices. -/
def indexTypeCode? : IndexType → Option Code
  | .absent => none
  | .short => some 0
  | .word => some 1

/-- The number of a topology. -/
def topologyCode : Primitive → Code
  | .triangles => 3
  | .triangleStrip => 4

/-- The number of a comparison. -/
def compareCode : CompareFunc → Code
  | .never => 0
  | .less => 1
  | .equal => 2
  | .lessEqual => 3
  | .greater => 4
  | .notEqual => 5
  | .greaterEqual => 6
  | .always => 7

/-- The sides that are not drawn. -/
def cullFlags (enabled : Bool) (face : Face) : Flags :=
  if enabled then
    match face with
    | .front => 1
    | .back => 2
  else 0

/-- The stages as flags. -/
def stageFlags : ShaderStage → Flags
  | .vertex => 1
  | .fragment => 16

/-! ### Samples -/

/-- Every sample count of Vulkan. -/
def sampleCounts : List UInt32 := [1, 2, 4, 8, 16, 32, 64]

/-- The flag of a sample count, if there is one. -/
def sampleFlag? (n : UInt32) : Option Flags := if sampleCounts.contains n then some n else none

/-- The largest sample count among flags, one if there is none. -/
def largestSampleCount (flags : Flags) : UInt32 :=
  (([64, 32, 16, 8, 4, 2] : List UInt32).find? fun n ↦ Flags.contains flags n).getD 1

/-! ### Attachments -/

/-- Contents are cleared when a pass begins. -/
def loadClear : Code := 1
/-- Contents may be anything when a pass begins. -/
def loadDontCare : Code := 2
/-- Contents are kept when a pass ends. -/
def storeStore : Code := 0
/-- Contents may be lost when a pass ends. -/
def storeDontCare : Code := 1

/-- What becomes of the image rendered into. If it is resolved, only the other image is kept. -/
def storeCode (action : StoreAction) (samples : UInt32) : Code :=
  match action with
  | .store => storeStore
  | .dontCare => storeDontCare
  | .resolve => if samples > 1 then storeDontCare else storeStore

/-- The layout of an image without contents. -/
def layoutUndefined : Code := 0
/-- The layout for rendering color into. -/
def layoutColorAttachment : Code := 2
/-- The layout for rendering depth into. -/
def layoutDepthAttachment : Code := 3
/-- The layout for sampling. -/
def layoutShaderRead : Code := 5
/-- The layout for showing. -/
def layoutPresent : Code := 1000001002

end RenderTargets.Vulkan
