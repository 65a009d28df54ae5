import RenderTargets.Vulkan.Enum
/-!
# Vertex input

How a pipeline reads vertices: one buffer, one row per vertex, and an attribute for each component
of the layout at the offset of that component.
-/

namespace RenderTargets.Vulkan

/-- The rows of the vertex buffer. -/
structure VertexBinding where
  /-- Number of the buffer. -/
  binding : UInt32
  /-- Bytes of a row. -/
  stride : UInt32
  /-- A row for each vertex is zero. -/
  rate : Code
  deriving DecidableEq, Inhabited, Repr

/-- A component of a row. -/
structure VertexAttribute where
  /-- Where the shader reads it. -/
  location : UInt32
  /-- Number of the buffer. -/
  binding : UInt32
  /-- How it is stored. -/
  format : Code
  /-- Bytes before it. -/
  offset : UInt32
  deriving DecidableEq, Inhabited, Repr

/-- The rows and attributes of a layout. -/
structure VertexInput where
  /-- The rows. -/
  binding : VertexBinding
  /-- The attributes. -/
  attributes : List VertexAttribute
  deriving DecidableEq, Inhabited, Repr

/-- The attributes of the components from the `i`-th on. -/
def vertexAttributes? (layout : VertexLayout) : Nat → VertexLayout → Option (List VertexAttribute)
  | _, [] => some []
  | i, c :: rest => do
    let offset ← layout.offset? i
    let more ← vertexAttributes? layout (i + 1) rest
    return ⟨attrLocation c.attr, 0, vertexFormatCode c.format, offset⟩ :: more

/-- How a pipeline reads vertices of a layout. -/
def vertexInput? (layout : VertexLayout) : Option VertexInput := do
  let stride ← VertexLayout.stride? layout
  return ⟨⟨0, stride, 0⟩, ← vertexAttributes? layout 0 layout⟩

end RenderTargets.Vulkan
