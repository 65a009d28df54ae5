import RenderTargets.Device
/-!
# The recorder

A graphics device without a GPU. It keeps every description that it accepts, hands out handles as
any device does, and **records the stream of commands** instead of carrying it out. It is as strict
about the order of commands and the fit of resources as a device that draws.

A recorder can be told to refuse the `n`-th resource of a kind and to report a wish to quit after a
number of frames.
-/

namespace RenderTargets

/-- A recorded command. -/
inductive Command where
  /-- A pass begins, or the pass into the screen, with the color of each attachment. -/
  | beginPass (pass : Option PassId) (clearColors : List Vec4)
  /-- Drawing is restricted to a rectangle. -/
  | viewport (rect : Rect) (topLeft : Bool)
  /-- A draw state is bound. -/
  | drawState (state : DrawState)
  /-- The uniforms of a stage are set. -/
  | uniforms (stage : ShaderStage) (data : List UInt8)
  /-- A group is drawn. -/
  | draw (group : Nat)
  /-- Rectangles are filled. -/
  | fillRects (color : Vec4) (rects : List Rect)
  /-- The pass ends. -/
  | endPass
  /-- The frame is handed over. -/
  | commitFrame
  deriving DecidableEq, Repr

namespace Recorder

/-- A number for each kind of resource. -/
structure Tally where
  /-- Of textures. -/
  textures : Nat := 0
  /-- Of meshes. -/
  meshes : Nat := 0
  /-- Of shaders. -/
  shaders : Nat := 0
  /-- Of pipelines. -/
  pipelines : Nat := 0
  /-- Of passes. -/
  passes : Nat := 0
  deriving DecidableEq, Inhabited, Repr

namespace Tally

/-- The number of a kind. -/
def count (t : Tally) : ResourceKind → Nat
  | .texture => t.textures
  | .mesh => t.meshes
  | .shader => t.shaders
  | .pipeline => t.pipelines
  | .pass => t.passes

/-- One more of a kind. -/
def bump (t : Tally) : ResourceKind → Tally
  | .texture => { t with textures := t.textures + 1 }
  | .mesh => { t with meshes := t.meshes + 1 }
  | .shader => { t with shaders := t.shaders + 1 }
  | .pipeline => { t with pipelines := t.pipelines + 1 }
  | .pass => { t with passes := t.passes + 1 }

/-- The numbers in the order of the kinds. -/
def toList (t : Tally) : List Nat := ResourceKind.all.map t.count

/-- All kinds together. -/
def total (t : Tally) : Nat := t.toList.foldr (· + ·) 0

end Tally

/-- The pass that is being recorded. -/
structure ActivePass where
  /-- The pass, or none for the screen. -/
  pass : Option PassId
  /-- What pipelines have to match. -/
  signature : Signature
  /-- The textures rendered into. -/
  attachments : List TextureId
  /-- The draw state in use. -/
  drawState : Option DrawState := none
  deriving DecidableEq, Repr

end Recorder

open Recorder in
/-- The state of a recorder. -/
structure Recorder where
  /-- What it can do. -/
  features : Features := .every
  /-- How many color attachments a pass can have. -/
  maxColors : UInt32 := 4
  /-- What its screen looks like. -/
  display : Display := ⟨640, 480, .bgra8Srgb, some .depth24Stencil8, 1⟩
  /-- Live textures. -/
  textures : Slot.Map ResourceKind.texture TextureDesc := {}
  /-- Live meshes. -/
  meshes : Slot.Map ResourceKind.mesh MeshDesc := {}
  /-- Live shaders. -/
  shaders : Slot.Map ResourceKind.shader ShaderDesc := {}
  /-- Live pipelines. -/
  pipelines : Slot.Map ResourceKind.pipeline PipelineDesc := {}
  /-- Live passes. -/
  passes : Slot.Map ResourceKind.pass PassDesc := {}
  /-- How many resources were made. -/
  created : Tally := {}
  /-- How many were released. -/
  destroyed : Tally := {}
  /-- Every handle ever handed out, the oldest first. -/
  order : List ResourceId := []
  /-- Textures that a pass resolved. -/
  resolved : List TextureId := []
  /-- Kind and number of the resource to refuse. -/
  failAt : Option (ResourceKind × Nat) := none
  /-- The commands, the oldest first. -/
  commands : List Command := []
  /-- The pass that is being recorded. -/
  active : Option ActivePass := none
  /-- How many frames were committed. -/
  frames : Nat := 0
  /-- The window was asked to close. -/
  quit : Bool := false
  /-- Number of frames after which it is. -/
  quitAfter : Option Nat := none
  deriving Inhabited, Repr

namespace Recorder

/-- The color of the screen if an action leaves it open. -/
def defaultClearColor : Vec4 := .black

/-- How many resources are alive. -/
def liveCount (r : Recorder) : Nat :=
  r.textures.size + r.meshes.size + r.shaders.size + r.pipelines.size + r.passes.size

/-- The resource is alive. -/
def isLive (r : Recorder) : ResourceId → Bool
  | .texture h => r.textures.contains h
  | .mesh h => r.meshes.contains h
  | .shader h => r.shaders.contains h
  | .pipeline h => r.pipelines.contains h
  | .pass h => r.passes.contains h

/-- Takes the commands recorded so far away. -/
def takeCommands (r : Recorder) : List Command × Recorder := (r.commands, { r with commands := [] })

end Recorder

end RenderTargets
