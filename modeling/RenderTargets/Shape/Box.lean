import RenderTargets.Number.Vector
import RenderTargets.Mesh
/-!
# Boxes

The surface of a box with its center at the origin. Each of its six faces is a grid of `tiles` by
`tiles` cells with vertices at the grid points, and each cell is two triangles.

## Faces

A face has an outward normal and two axes `u`, `v` with `u × v` equal to the normal, so that
triangles which turn left in the axes turn left when seen from outside.

## Positions

Where a grid point lies is one expression (`Shape.place`) in any numbers that have what it takes
(`Shape.Coordinate`). Singles round each of its operations; exact numbers say what is meant.

## Indices

Vertices are numbered in words. The number of the first vertex of a face is cut off to a word, and
sums and products from there on trap if no word holds them.
-/

namespace RenderTargets.Shape

/-- A generated vertex. -/
structure Vertex where
  /-- Where it is. -/
  position : Vec3
  /-- Which way the surface faces. -/
  normal : Vec3
  /-- Where it is on a texture. -/
  texCoord : Vec2
  deriving DecidableEq, Inhabited, Repr

/-- A box to build. -/
structure Box where
  /-- Its extent along each axis. -/
  size : Vec3
  /-- Cells along an edge of a face. -/
  tiles : UInt32
  deriving DecidableEq, Inhabited, Repr

namespace Box

/-- A box of at least one cell along each edge. -/
def ofSize (width height depth : Single) (tiles : UInt32) : Box :=
  ⟨⟨width, height, depth⟩, max tiles 1⟩

end Box

/-- A face of a box. -/
structure Face where
  /-- Points outwards. -/
  normal : Vec3
  /-- First axis in the face. -/
  u : Vec3
  /-- Second axis in the face. -/
  v : Vec3
  deriving DecidableEq, Inhabited, Repr

/-- Along an axis. -/
def xAxis : Vec3 := ⟨.one, .zero, .zero⟩
/-- Along an axis. -/
def yAxis : Vec3 := ⟨.zero, .one, .zero⟩
/-- Along an axis. -/
def zAxis : Vec3 := ⟨.zero, .zero, .one⟩
/-- Against an axis. -/
def xAxisBack : Vec3 := ⟨.negOne, .zero, .zero⟩
/-- Against an axis. -/
def yAxisBack : Vec3 := ⟨.zero, .negOne, .zero⟩
/-- Against an axis. -/
def zAxisBack : Vec3 := ⟨.zero, .zero, .negOne⟩

/-- The faces in the order of their vertices. -/
def faces : List Face :=
  [⟨xAxis, zAxisBack, yAxis⟩, ⟨xAxisBack, zAxis, yAxis⟩,
   ⟨yAxis, xAxis, zAxisBack⟩, ⟨yAxisBack, xAxis, zAxis⟩,
   ⟨zAxis, xAxis, yAxis⟩, ⟨zAxisBack, xAxisBack, yAxis⟩]

/-- The grid points of a face, row after row. -/
def gridPoints (tiles : Nat) : List (Nat × Nat) :=
  (List.range (tiles + 1)).flatMap fun j ↦ (List.range (tiles + 1)).map fun i ↦ (i, j)

/-- Numbers that positions are computed with. -/
class Coordinate (α : Type) where
  /-- One half. -/
  half : α
  /-- The number of a count. -/
  ofCount : Nat → α
  /-- A number without its sign. -/
  size : α → α
  /-- The larger of two numbers. -/
  larger : α → α → α

instance : Coordinate Single where
  half := .half
  ofCount n := .ofUnsigned (UInt32.ofNat n)
  size := .abs
  larger := .max

section Coordinates

open Coordinate

variable {α : Type} [Add α] [Sub α] [Mul α] [Div α] [Coordinate α]

/-- Which part of an edge comes before a grid point. -/
def part (tiles i : Nat) : α := ofCount i / ofCount tiles

/-- The largest size of a product of components, which for an axis is the extent along it. -/
def extentAlong (axis extents : Fin 3 → α) : α :=
  larger (size (axis 0 * extents 0))
    (larger (size (axis 1 * extents 1)) (size (axis 2 * extents 2)))

/-- Where a grid point lies on a face with a normal and axes `u`, `v` of a box. -/
def place (normal u v extents : Fin 3 → α) (tiles : Nat) (p : Nat × Nat) : Fin 3 → α :=
  let extentU := extentAlong u extents
  let extentV := extentAlong v extents
  fun k ↦ (normal k * (extents k * half) + u k * (part tiles p.1 - half) * extentU) +
    v k * (part tiles p.2 - half) * extentV

end Coordinates

/-- The vertex at a grid point of a face of a box. -/
def vertexAt (b : Box) (f : Face) (p : Nat × Nat) : Vertex :=
  let tiles := b.tiles.toNat
  let q := place f.normal.component f.u.component f.v.component b.size.component tiles p
  { position := ⟨q 0, q 1, q 2⟩
    normal := f.normal
    texCoord := ⟨part tiles p.1, .one - part tiles p.2⟩ }

/-- The vertices of a box, face after face. -/
def boxVertices (b : Box) : List Vertex :=
  faces.flatMap fun f ↦ (gridPoints b.tiles.toNat).map (vertexAt b f)

/-- The cells of a face, row after row. -/
def gridCells (tiles : Nat) : List (Nat × Nat) :=
  (List.range tiles).flatMap fun j ↦ (List.range tiles).map fun i ↦ (i, j)

/-- The six corners of the two triangles of a cell, for a face whose first vertex is `first`. -/
def cellIndices? (tiles first : UInt32) (c : Nat × Nat) : Option (List UInt32) := do
  let row ← Word.add? tiles 1
  let below ← Word.mul? (.ofNat c.2) row
  let start ← Word.add? first below
  let a ← Word.add? start (.ofNat c.1)
  let b ← Word.add? a 1
  let d ← Word.add? a row
  let c ← Word.add? d 1
  return [a, b, c, a, c, d]

/-- The indices of a face whose first vertex is `first`. -/
def faceIndices? (tiles first : UInt32) : Option (List UInt32) :=
  List.flatten <$> (gridCells tiles.toNat).mapM (cellIndices? tiles first)

/-- The indices of a box with so many vertices before its own. -/
def boxIndices? (b : Box) (before : Nat) : Option (List UInt32) :=
  let perFace := (b.tiles.toNat + 1) * (b.tiles.toNat + 1)
  List.flatten <$>
    (List.range 6).mapM fun k ↦ faceIndices? b.tiles (.ofNat (before + k * perFace))

/-- Number of vertices of a box. -/
def boxVertexCount (b : Box) : Nat := 6 * ((b.tiles.toNat + 1) * (b.tiles.toNat + 1))

/-- Number of indices of a box. -/
def boxIndexCount (b : Box) : Nat := 36 * (b.tiles.toNat * b.tiles.toNat)

end RenderTargets.Shape
