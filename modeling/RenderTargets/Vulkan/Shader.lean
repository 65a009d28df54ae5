import RenderTargets.Vulkan.Host
/-!
# Shaders on the GPU

A shader is two modules of code. Each is read once, by the reflection of the context, to find out
what its stage takes from outside.
-/

namespace RenderTargets.Vulkan

open Log

/-- The code of a stage. -/
structure ShaderModule where
  /-- The code. -/
  code : Object .shaderModule
  /-- Name of the function to start with. -/
  entryPoint : String
  /-- What the stage takes from outside. -/
  interface : Spirv.Interface
  deriving DecidableEq, Inhabited, Repr

namespace ShaderModule

/-- What a stage takes from outside. Code that cannot be read is noted in the journal. -/
def readInterface (ctx : Context) (words : List UInt32) (start : String) : Run Spirv.Interface := do
  match Spirv.Interface.read ctx.reflect words start with
  | .ok i => return i
  | .error (.error cause) => refuse source cause
  | .error .trap => .trap

/-- Makes the module of a stage. -/
def create (ctx : Context) (shader : String) (stage : ShaderStage) (d : ModuleDesc) :
    Run ShaderModule := do
  let words ← StepWith.ofChecked
    ((Checked.ofExcept d.words).mapError fun e ↦ EngineError.invalid (.code e))
  let interface ← readInterface ctx words d.entryPoint
  if d.entryPoint.toList.contains '\x00' then refuse source (.entryPointName shader)
  let code ← Run.work s!"create {stage.name} module of shader '{shader}'"
    (Driver.create .createShaderModule (.createShaderModule · words))
  return { code, entryPoint := d.entryPoint, interface }

end ShaderModule

/-- A shader. -/
structure Shader where
  /-- Name for messages. -/
  name : String
  /-- The vertex stage. -/
  vertex : ShaderModule
  /-- The fragment stage. -/
  fragment : ShaderModule
  deriving DecidableEq, Inhabited, Repr

namespace Shader

/-- Makes a shader. If the fragment stage is an error, the vertex stage is given up. -/
def create (ctx : Context) (d : ShaderDesc) : Run Shader := do
  StepWith.ofChecked ((Checked.ofExcept d.validate).mapError fun e ↦ .invalid (.shader d.name e))
  let vertex ← ShaderModule.create ctx d.name .vertex d.vertex
  let fragment ← StepWith.undoingOnError (ShaderModule.create ctx d.name .fragment d.fragment)
    (Run.destroy vertex.code)
  note .debug source
    (s!"Shader '{d.name}': vs uniforms {vertex.interface.uniformSize.toNat} bytes, " ++
      s!"fs uniforms {fragment.interface.uniformSize.toNat} bytes, " ++
      s!"{fragment.interface.sampledBindings.length} texture(s)")
  Run.share
  return { name := d.name, vertex, fragment }

/-- Gives a shader up. -/
def drop (s : Shader) : Run Unit := do
  Run.destroy s.vertex.code
  Run.destroy s.fragment.code
  Run.unshare

end Shader

end RenderTargets.Vulkan
