import RenderTargets.Step
import RenderTargets.Vertex
import RenderTargets.Number.Single
/-!
# Meshes

A mesh is a list of vertices, perhaps a list of indices into it, and **groups**: ranges of indices,
or of vertices if there are no indices, each drawn by one call.
-/

namespace RenderTargets

/-- How indices are stored. -/
inductive IndexType where
  /-- There are no indices. -/
  | absent
  /-- Two bytes each. -/
  | short
  /-- Four bytes each. -/
  | word
  deriving DecidableEq, Inhabited, Repr

namespace IndexType

/-- Every type. -/
def all : List IndexType := [absent, short, word]

/-- The name in messages. -/
def name : IndexType → String
  | absent => "None"
  | short => "UInt16"
  | word => "UInt32"

/-- Bytes of an index. -/
def size : IndexType → Nat
  | absent => 0
  | short => 2
  | word => 4

end IndexType

/-- How vertices make triangles. -/
inductive Primitive where
  /-- Three for each. -/
  | triangles
  /-- One more for each. -/
  | triangleStrip
  deriving DecidableEq, Inhabited, Repr

namespace Primitive

/-- Every kind. -/
def all : List Primitive := [triangles, triangleStrip]

/-- The name in messages. -/
def name : Primitive → String
  | triangles => "Triangles"
  | triangleStrip => "TriangleStrip"

end Primitive

/-- A range of elements drawn together. -/
structure Group where
  /-- First element. -/
  base : UInt32
  /-- Number of elements. -/
  count : UInt32
  deriving DecidableEq, Inhabited, Repr

/-- Description of a mesh. -/
structure MeshDesc where
  /-- Name for messages. -/
  name : String
  /-- Components of a vertex. -/
  layout : VertexLayout
  /-- Number of vertices. -/
  vertexCount : UInt32
  /-- Bytes of the vertices. -/
  vertexData : List UInt8
  /-- How indices are stored. -/
  indexType : IndexType
  /-- Number of indices. -/
  indexCount : UInt32
  /-- Bytes of the indices. -/
  indexData : List UInt8
  /-- How vertices make triangles. -/
  primitive : Primitive
  /-- The ranges that can be drawn. -/
  groups : List Group
  deriving DecidableEq, Inhabited, Repr

/-- What can be wrong with the description of a mesh. -/
inductive MeshDefect where
  /-- A vertex has no component. -/
  | emptyLayout
  /-- The vertices have another length than they should. -/
  | vertexBytes (found expected : Nat)
  /-- The indices have another length than they should. -/
  | indexBytes (found expected : Nat)
  /-- A group goes past the last element. -/
  | groupRange (group : Nat) (elements : UInt32)
  deriving DecidableEq, Repr

/-- The words after the name of the mesh. -/
def MeshDefect.message : MeshDefect → String
  | emptyLayout => "has an empty vertex layout"
  | vertexBytes found expected => s!"vertex data is {found} bytes, expected {expected}"
  | indexBytes found expected => s!"index data is {found} bytes, expected {expected}"
  | groupRange i n => s!"primitive group {i} exceeds {n.toNat} elements"

namespace MeshDesc

/-- A mesh without vertices. -/
def empty : MeshDesc :=
  { name := "", layout := [], vertexCount := 0, vertexData := [], indexType := .absent
    indexCount := 0, indexData := [], primitive := .triangles, groups := [] }

/-- What groups count: indices, or vertices if there are none. -/
def elementCount (m : MeshDesc) : UInt32 :=
  if m.indexType = .absent then m.vertexCount else m.indexCount

/-- The groups from the `i`-th on end within `elements`. The end of a group is a word. -/
def checkGroups (elements : UInt32) : Nat → List Group → Checked MeshDefect Unit
  | _, [] => pure ()
  | i, g :: rest => do
    let stop ← Checked.ofOption (Word.add? g.base g.count)
    if stop > elements then throw (.error (.groupRange i elements))
    checkGroups elements (i + 1) rest

/-- The data have the lengths that the counts ask for, and the groups lie within them. -/
def validate (m : MeshDesc) : Checked MeshDefect Unit := do
  if m.layout.isEmpty then throw (.error .emptyLayout)
  let stride ← Checked.ofOption (VertexLayout.stride? m.layout)
  let vertexBytes := m.vertexCount.toNat * stride.toNat
  if m.vertexData.length ≠ vertexBytes then
    throw (.error (.vertexBytes m.vertexData.length vertexBytes))
  let indexBytes := m.indexCount.toNat * m.indexType.size
  if m.indexData.length ≠ indexBytes then
    throw (.error (.indexBytes m.indexData.length indexBytes))
  checkGroups m.elementCount 0 m.groups

/-- Two triangles over all of clip space. With `flip` the second texture coordinate runs downwards,
as the rows of an image do. -/
def fullScreenQuad (flip : Bool) : MeshDesc :=
  let top : Single := if flip then .zero else .one
  let bottom : Single := if flip then .one else .zero
  let vertices : List Single :=
    [.negOne, .one, .zero, top,
     .one, .one, .one, top,
     .negOne, .negOne, .zero, bottom,
     .one, .negOne, .one, bottom]
  { name := "full_screen_quad"
    layout := [⟨.position, .pair⟩, ⟨.texCoord, .pair⟩]
    vertexCount := 4
    vertexData := vertices.flatMap Single.bytes
    indexType := .short
    indexCount := 6
    indexData := [0, 2, 1, 1, 2, 3].flatMap Word.shortBytes
    primitive := .triangles
    groups := [⟨0, 6⟩] }

end MeshDesc

end RenderTargets
