import RenderTargets.Error
import RenderTargets.Vulkan.Memory
/-!
# Meshes on the GPU

Vertices and indices are buffers whose memory the program can write to. A buffer holds one byte at
least.
-/

namespace RenderTargets.Vulkan

open Log

/-- A buffer that can be used. -/
structure Buffer where
  /-- The bytes. -/
  buffer : Object .buffer
  /-- The memory. -/
  memory : Object .memory
  /-- Number of bytes. -/
  size : Nat
  deriving DecidableEq, Inhabited, Repr

/-- Buffers may hold indices. -/
def usageIndices : Flags := 0x40
/-- Buffers may hold vertices. -/
def usageVertices : Flags := 0x80

namespace Buffer

/-- Puts memory behind a buffer and writes the bytes. -/
def complete (name : String) (buffer : Object .buffer) (size : Nat) (bytes : List UInt8)
    (memory : Object .memory) : Run Buffer := do
  Run.work s!"bind memory of buffer '{name}'" (Driver.bindBuffer buffer size)
  Run.changeDriver (Driver.write buffer bytes)
  return { buffer, memory, size }

/-- Makes a buffer of the given bytes. -/
def create (name : String) (usage : Flags) (bytes : List UInt8) : Run Buffer := do
  let size := max bytes.length 1
  let buffer ← Run.work s!"create buffer '{name}' of {size} bytes"
    (Driver.create .createBuffer (.createBuffer · size usage))
  Run.share
  let discard : Run Unit := do
    Run.destroy buffer
    Run.unshare
  StepWith.undoing
    (do
      let memory ← allocate name .bufferMemory size
      StepWith.undoing (complete name buffer size bytes memory) (free memory))
    discard

/-- Gives a buffer up. -/
def drop (b : Buffer) : Run Unit := do
  free b.memory
  Run.destroy b.buffer
  Run.unshare

end Buffer

/-- A mesh. -/
structure Mesh where
  /-- The vertices. -/
  vertices : Buffer
  /-- The indices, if there are any, and how they are stored. -/
  indices : Option (Buffer × Code)
  /-- The ranges that can be drawn. -/
  groups : List Group
  deriving DecidableEq, Inhabited, Repr

namespace Mesh

/-- Makes the indices, if there are any. -/
def createIndices (d : MeshDesc) : Run (Option (Buffer × Code)) := do
  match indexTypeCode? d.indexType with
  | none => return none
  | some code =>
    let buffer ← Buffer.create s!"{d.name}_indices" usageIndices d.indexData
    return some (buffer, code)

/-- Makes a mesh. -/
def create (d : MeshDesc) : Run Mesh := do
  StepWith.ofChecked (d.validate.mapError fun e ↦ .invalid (.mesh d.name e))
  let vertices ← Buffer.create s!"{d.name}_vertices" usageVertices d.vertexData
  let indices ← StepWith.undoing (createIndices d) vertices.drop
  let indexBytes := indices.elim 0 (·.1.size)
  note .debug source
    s!"Mesh '{d.name}': {vertices.size} vertex bytes, {indexBytes} index bytes"
  return { vertices, indices, groups := d.groups }

/-- Gives a mesh up. -/
def drop (m : Mesh) : Run Unit := do
  m.vertices.drop
  match m.indices with
  | some (buffer, _) => buffer.drop
  | none => pure ()

/-- Binds the buffers. -/
def bind (m : Mesh) (buffer : Object .commandBuffer) : Run Unit := do
  Run.record buffer (.bindVertices m.vertices.buffer)
  match m.indices with
  | some (indices, code) => Run.record buffer (.bindIndices indices.buffer code)
  | none => pure ()

/-- Draws a group of the bound buffers. -/
def draw (m : Mesh) (buffer : Object .commandBuffer) (g : Group) : Run Unit :=
  Run.record buffer
    (if m.indices.isSome then .drawIndexed g.count g.base else .draw g.count g.base)

end Mesh

end RenderTargets.Vulkan
