import RenderTargets.Slot.Map
/-!
# Resources

The five kinds of resource of a device and their handles. A handle carries its kind in its type;
`ResourceId` is a handle of any kind.
-/

namespace RenderTargets

/-- The kinds of resource. -/
inductive ResourceKind where
  /-- Surfaces. -/
  | texture
  /-- Vertices and indices. -/
  | mesh
  /-- Programs. -/
  | shader
  /-- Programs with their fixed state. -/
  | pipeline
  /-- Sets of surfaces rendered into together. -/
  | pass
  deriving DecidableEq, Inhabited, Repr

namespace ResourceKind

/-- Every kind. -/
def all : List ResourceKind := [texture, mesh, shader, pipeline, pass]

/-- The name in messages. -/
def name : ResourceKind → String
  | texture => "Texture"
  | mesh => "Mesh"
  | shader => "Shader"
  | pipeline => "Pipeline"
  | pass => "Pass"

/-- The name within a sentence. -/
def noun : ResourceKind → String
  | texture => "texture"
  | mesh => "mesh"
  | shader => "shader"
  | pipeline => "pipeline"
  | pass => "pass"

end ResourceKind

/-- A handle of a texture. -/
abbrev TextureId := Slot.Handle ResourceKind.texture
/-- A handle of a mesh. -/
abbrev MeshId := Slot.Handle ResourceKind.mesh
/-- A handle of a shader. -/
abbrev ShaderId := Slot.Handle ResourceKind.shader
/-- A handle of a pipeline. -/
abbrev PipelineId := Slot.Handle ResourceKind.pipeline
/-- A handle of a pass. -/
abbrev PassId := Slot.Handle ResourceKind.pass

/-- A handle of any kind. -/
inductive ResourceId where
  /-- Of a texture. -/
  | texture (id : TextureId)
  /-- Of a mesh. -/
  | mesh (id : MeshId)
  /-- Of a shader. -/
  | shader (id : ShaderId)
  /-- Of a pipeline. -/
  | pipeline (id : PipelineId)
  /-- Of a pass. -/
  | pass (id : PassId)
  deriving DecidableEq, Repr

namespace ResourceId

/-- The kind of the resource. -/
def kind : ResourceId → ResourceKind
  | texture _ => .texture
  | mesh _ => .mesh
  | shader _ => .shader
  | pipeline _ => .pipeline
  | pass _ => .pass

/-- Slot and version, such as `3v1`. -/
def parts : ResourceId → String
  | texture h => h.parts
  | mesh h => h.parts
  | shader h => h.parts
  | pipeline h => h.parts
  | pass h => h.parts

/-- The handle in messages, such as `Texture(TextureId(3v1))`. -/
def text (r : ResourceId) : String :=
  let handle := match r with
    | texture h => h.text
    | mesh h => h.text
    | shader h => h.text
    | pipeline h => h.text
    | pass h => h.text
  s!"{r.kind.name}({r.kind.name}Id({handle}))"

/-- The handle of a kind with the given slot and version, which is made odd. -/
def ofParts (index version : UInt32) : ResourceKind → ResourceId
  | .texture => .texture (.ofParts index version)
  | .mesh => .mesh (.ofParts index version)
  | .shader => .shader (.ofParts index version)
  | .pipeline => .pipeline (.ofParts index version)
  | .pass => .pass (.ofParts index version)

end ResourceId

end RenderTargets
