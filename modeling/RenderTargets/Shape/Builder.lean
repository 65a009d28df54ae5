import RenderTargets.Error
import RenderTargets.Shape.Box
/-!
# Meshes of shapes

Boxes, one after another, as one mesh with the vertex layout of the caller's choice. Each box is one
primitive group.

## Stored numbers

A component takes as many of its four values as its format has places. Bytes are the values times
255 or 127, brought into range first and rounded with halves away from zero. Normals in unsigned
bytes are moved from -1 … 1 to 0 … 1.

## Indices

Indices take two bytes as long as two bytes can count the vertices. The group of a box begins at the
number of indices before its own and has as many as there are more after it, in words.
-/

namespace RenderTargets

open Shape

/-- Boxes to make a mesh of. -/
structure ShapeBuilder where
  /-- Components of a vertex. -/
  layout : VertexLayout
  /-- What color components are set to. -/
  color : Vec4 := .ones
  /-- The boxes. -/
  boxes : List Box := []
  deriving DecidableEq, Inhabited, Repr

namespace ShapeBuilder

/-- The builder with one more box. -/
def addBox (b : ShapeBuilder) (width height depth : Single) (tiles : UInt32) : ShapeBuilder :=
  { b with boxes := b.boxes ++ [Box.ofSize width height depth tiles] }

/-- What a component says of a vertex. -/
def valueOf (b : ShapeBuilder) (v : Vertex) : VertexAttr → Vec4
  | .position => v.position.extend .one
  | .normal => v.normal.extend .zero
  | .texCoord => ⟨v.texCoord.x, v.texCoord.y, .zero, .zero⟩
  | .color => b.color

/-- A value from 0 to 1 as a byte; zero for a NaN. -/
def unsignedByte (c : Single) : UInt8 :=
  let scaled := c.clamp .zero .one * .largestByte
  if scaled.isNaN then 0 else UInt8.ofNat scaled.round.toNat

/-- A value from -1 to 1 as a byte; zero for a NaN. -/
def signedByte (c : Single) : UInt8 :=
  let scaled := c.clamp .negOne .one * .largestSignedByte
  if scaled.isNaN then 0 else (Int8.ofInt scaled.round).toUInt8

/-- The bytes of a component of a vertex. -/
def encode (b : ShapeBuilder) (v : Vertex) (c : VertexComponent) : List UInt8 :=
  let value := b.valueOf v c.attr
  match c.format with
  | .single => value.x.bytes
  | .pair => value.x.bytes ++ value.y.bytes
  | .triple => value.x.bytes ++ value.y.bytes ++ value.z.bytes
  | .quad => value.x.bytes ++ value.y.bytes ++ value.z.bytes ++ value.w.bytes
  | .unsignedBytes =>
    let unit := if c.attr = .normal then value.scale .half + Vec4.splat .half else value
    unit.toList.map unsignedByte
  | .signedBytes => value.toList.map signedByte

/-- The bytes of a vertex. -/
def encodeVertex (b : ShapeBuilder) (v : Vertex) : List UInt8 := b.layout.flatMap (b.encode v)

/-- The vertices of all boxes. -/
def vertices (b : ShapeBuilder) : List Vertex := b.boxes.flatMap boxVertices

/-- The indices of boxes with so many vertices before theirs. -/
def indicesFrom? : (before : Nat) → List Box → Option (List UInt32)
  | _, [] => some []
  | before, b :: rest => do
    let indices ← boxIndices? b before
    return indices ++ (← indicesFrom? (before + boxVertexCount b) rest)

/-- The indices of all boxes. -/
def indices? (b : ShapeBuilder) : Option (List UInt32) := indicesFrom? 0 b.boxes

/-- The groups of boxes with so many indices before theirs. -/
def groupsFrom? : (before : Nat) → List Box → Option (List Group)
  | _, [] => some []
  | before, b :: rest => do
    let start := UInt32.ofNat before
    let count ← Word.sub? (.ofNat (before + boxIndexCount b)) start
    return ⟨start, count⟩ :: (← groupsFrom? (before + boxIndexCount b) rest)

/-- Type and bytes of indices into so many vertices. -/
def encodeIndices (vertexCount : Nat) (indices : List UInt32) : IndexType × List UInt8 :=
  if vertexCount ≤ 65536 then (.short, indices.flatMap fun i ↦ Word.shortBytes i.toUInt16)
  else (.word, indices.flatMap Word.bytes)

/-- The mesh of the boxes. It traps where an index or the length of a group is no word; the numbers
of vertices and indices are cut off to words. -/
def build (b : ShapeBuilder) : Checked EngineError MeshDesc := do
  if (VertexLayout.indexOf? b.layout .position).isNone then
    throw (.error (.invalid .shapeWithoutPosition))
  if b.boxes.isEmpty then throw (.error (.invalid .noShapes))
  let indices ← Checked.ofOption b.indices?
  let groups ← Checked.ofOption (groupsFrom? 0 b.boxes)
  let _ ← Checked.ofOption (VertexLayout.stride? b.layout)
  let vertices := b.vertices
  let (indexType, indexData) := encodeIndices vertices.length indices
  return {
    name := "shape"
    layout := b.layout
    vertexCount := .ofNat vertices.length
    vertexData := vertices.flatMap b.encodeVertex
    indexType
    indexCount := .ofNat indices.length
    indexData
    primitive := .triangles
    groups }

end ShapeBuilder

end RenderTargets
