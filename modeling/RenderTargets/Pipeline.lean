import RenderTargets.Format
import RenderTargets.Mesh
import RenderTargets.Resource
/-!
# Pipelines

A pipeline is a shader with the layout of the vertices it reads and the fixed state around it. It
may only be used in a pass of the same **signature**: number and format of the color attachments,
format of the depth buffer, samples per pixel.
-/

namespace RenderTargets

/-- When a depth passes against the one in the buffer. -/
inductive CompareFunc where
  /-- At no time. -/
  | never
  /-- If smaller. -/
  | less
  /-- If the same. -/
  | equal
  /-- If smaller or the same. -/
  | lessEqual
  /-- If larger. -/
  | greater
  /-- If another. -/
  | notEqual
  /-- If larger or the same. -/
  | greaterEqual
  /-- At all times. -/
  | always
  deriving DecidableEq, Inhabited, Repr

namespace CompareFunc

/-- Every comparison. -/
def all : List CompareFunc :=
  [never, less, equal, lessEqual, greater, notEqual, greaterEqual, always]

/-- The name in messages. -/
def name : CompareFunc → String
  | never => "Never"
  | less => "Less"
  | equal => "Equal"
  | lessEqual => "LessEqual"
  | greater => "Greater"
  | notEqual => "NotEqual"
  | greaterEqual => "GreaterEqual"
  | always => "Always"

end CompareFunc

/-- A side of a triangle. -/
inductive Face where
  /-- Its corners run counter-clockwise. -/
  | front
  /-- Its corners run clockwise. -/
  | back
  deriving DecidableEq, Inhabited, Repr

namespace Face

/-- Both sides. -/
def all : List Face := [front, back]

/-- The name in messages. -/
def name : Face → String
  | front => "Front"
  | back => "Back"

end Face

/-- What a pass offers and a pipeline expects. -/
structure Signature where
  /-- Number of color attachments. -/
  colorCount : UInt32
  /-- Format of all of them. -/
  colorFormat : Format
  /-- Format of the depth buffer, if there is one. -/
  depthFormat : Option Format
  /-- Samples per pixel. -/
  samples : UInt32
  deriving DecidableEq, Inhabited, Repr

/-- The signature in messages. -/
def Signature.text (s : Signature) : String :=
  s!"({s.colorCount.toNat} x {s.colorFormat.name}, {s.samples.toNat} samples)"

/-- Description of a pipeline. -/
structure PipelineDesc where
  /-- Name for messages. -/
  name : String
  /-- The program. -/
  shader : ShaderId
  /-- Components of a vertex. -/
  layout : VertexLayout
  /-- How vertices make triangles. -/
  primitive : Primitive
  /-- Depths are written. -/
  depthWrite : Bool
  /-- When a depth passes. -/
  depthCompare : CompareFunc
  /-- One side is not drawn. -/
  cull : Bool
  /-- Which side that is. -/
  cullFace : Face
  /-- The passes it can be used in. -/
  signature : Signature
  deriving DecidableEq, Inhabited, Repr

/-- What can be wrong with the description of a pipeline. -/
inductive PipelineDefect where
  /-- A vertex has no component. -/
  | emptyLayout
  /-- There is no color attachment. -/
  | noColor
  /-- The color format holds depth. -/
  | depthAsColor (format : Format)
  /-- The sample count is not a power of two. -/
  | sampleCount (samples : UInt32)
  /-- Depths are written to no buffer. -/
  | noDepthToWrite
  /-- The shader is not alive. -/
  | unknownShader
  deriving DecidableEq, Repr

/-- The words after the name of the pipeline. -/
def PipelineDefect.message : PipelineDefect → String
  | emptyLayout => "has an empty vertex layout"
  | noColor => "writes no color attachment"
  | depthAsColor f => s!"color format {f.name} is a depth format"
  | sampleCount n => s!"has invalid sample count {n.toNat}"
  | noDepthToWrite => "writes depth but its pass has no depth buffer"
  | unknownShader => "references an unknown shader"

namespace PipelineDesc

/-- A pipeline for passes of one linear color attachment and a combined depth buffer. -/
def ofLayoutAndShader (layout : VertexLayout) (shader : ShaderId) : PipelineDesc :=
  { name := "", shader, layout, primitive := .triangles, depthWrite := false
    depthCompare := .always, cull := false, cullFace := .back
    signature := ⟨1, .rgba8Unorm, some .depth24Stencil8, 1⟩ }

/-- The description is consistent in itself. -/
def validate (p : PipelineDesc) : Except PipelineDefect Unit := do
  if p.layout.isEmpty then throw .emptyLayout
  if p.signature.colorCount = 0 then throw .noColor
  if p.signature.colorFormat.isDepth then throw (.depthAsColor p.signature.colorFormat)
  if !Word.isPowerOfTwo p.signature.samples then throw (.sampleCount p.signature.samples)
  if p.depthWrite ∧ p.signature.depthFormat = none then throw .noDepthToWrite

end PipelineDesc

end RenderTargets
