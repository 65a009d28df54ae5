import RenderTargets.Step
import RenderTargets.Texture
import RenderTargets.Mesh
import RenderTargets.Shader
import RenderTargets.Pipeline
import RenderTargets.Pass
import RenderTargets.Vulkan.ResultCode
/-!
# Errors

Every way in which an operation of a device or of the application fails, as a cause with what was
found, and one wording for each.

There are four kinds. `invalid` is a bad description or a handle that is not alive. `backend` is a
command out of order, an object used where it does not fit, or a call of the driver that failed.
`initialization` is a device or program that cannot be set up. `outOfMemory` stands for itself.
-/

namespace RenderTargets

/-- Why a resource is not valid. -/
inductive InvalidCause where
  /-- A texture description has a defect. -/
  | texture (name : String) (defect : TextureDefect)
  /-- A mesh description has a defect. -/
  | mesh (name : String) (defect : MeshDefect)
  /-- A module of code has a defect. -/
  | code (defect : CodeDefect)
  /-- A shader description has a defect. -/
  | shader (name : String) (defect : ShaderDefect)
  /-- A pipeline description has a defect. -/
  | pipeline (name : String) (defect : PipelineDefect)
  /-- A pass description has a defect. -/
  | pass (name : String) (defect : PassDefect)
  /-- A handle to release is not alive. -/
  | notAlive (id : ResourceId)
  /-- The pass to begin is not alive. -/
  | unknownPass
  /-- The first attachment of the pass to begin is not alive. -/
  | releasedAttachment
  /-- A handle of a draw state is not alive. -/
  | unknownInDrawState (kind : ResourceKind)
  /-- A handle of the draw state in use is no longer alive. -/
  | releasedInUse (kind : ResourceKind)
  /-- Vertices of a shape would have no position. -/
  | shapeWithoutPosition
  /-- There is no shape to build. -/
  | noShapes
  /-- The device binds too few attachments for the surfaces of the scene. -/
  | tooFewAttachments (needed : Nat) (limit : UInt32)
  /-- Another cause in its own words. -/
  | text (words : String)
  deriving DecidableEq, Repr

/-- The cause in words. -/
def InvalidCause.message : InvalidCause → String
  | texture n d => s!"texture '{n}' {d.message}"
  | mesh n d => s!"mesh '{n}' {d.message}"
  | code d => d.message
  | shader n d => s!"shader '{n}' {d.stage.name} stage: Invalid resource: {d.code.message}"
  | pipeline n d => s!"pipeline '{n}' {d.message}"
  | pass n d => s!"pass '{n}' {d.message}"
  | notAlive id => s!"{id.text} is not alive"
  | unknownPass => "begin_pass with an unknown pass"
  | releasedAttachment => "pass attachment was released"
  | unknownInDrawState k => s!"draw state references an unknown {k.noun}"
  | releasedInUse k => s!"bound {k.noun} was released"
  | shapeWithoutPosition => "shape layout has no Position component"
  | noShapes => "shape builder has no shapes"
  | tooFewAttachments n limit =>
    s!"multi-target pass needs {n} color attachments, device maximum is {limit.toNat}"
  | text w => w

/-- What decides whether textures can be attachments of one pass. -/
structure AttachmentShape where
  /-- Name of the texture. -/
  name : String
  /-- Pixels across. -/
  width : UInt32
  /-- Pixels down. -/
  height : UInt32
  /-- Samples per pixel. -/
  samples : UInt32
  /-- Color format. -/
  format : Format
  deriving DecidableEq, Repr

/-- The shape in messages. -/
def AttachmentShape.text (a : AttachmentShape) : String :=
  s!"'{a.name}' ({a.width.toNat}x{a.height.toNat}, {a.samples.toNat} samples, {a.format.name})"

/-- Why textures do not make a pass on a GPU. -/
inductive PassFault where
  /-- An attachment is not alive. -/
  | deadAttachment (index : Nat)
  /-- An attachment is for sampling only. -/
  | notRenderTarget (texture : String)
  /-- There is no attachment. -/
  | noColor
  /-- An attachment is not like the first. -/
  | unlikeFirst (found first : AttachmentShape)
  /-- The texture for depth has no depth buffer of the right size. -/
  | depthMismatch (texture : String)
  /-- The texture for depth is not alive. -/
  | deadDepth
  /-- A texture to resolve has nothing to resolve into. -/
  | noResolveImage (texture : String)
  /-- The sample count is none that a GPU has. -/
  | sampleCount (samples : UInt32)
  deriving DecidableEq, Repr

/-- The words after the name of the pass. -/
def PassFault.message : PassFault → String
  | deadAttachment i => s!": color attachment {i} is not a live texture"
  | notRenderTarget t => s!": texture '{t}' is not a render target"
  | noColor => " has no color attachment"
  | unlikeFirst found first => s!": attachment {found.text} differs from {first.text}"
  | depthMismatch t => s!": depth source '{t}' has no matching depth buffer"
  | deadDepth => ": depth source is not a live texture"
  | noResolveImage t => s!": '{t}' resolves but has no single-sample image"
  | sampleCount n => s!": unsupported sample count {n.toNat}"

/-- Why a device refuses a command or cannot carry it out. -/
inductive BackendCause where
  /-- A command that needs a pass came outside of one. -/
  | outsidePass (command : String)
  /-- A pass began inside another. -/
  | nestedPass
  /-- A pass ended that had not begun. -/
  | endWithoutBegin
  /-- A frame was committed inside a pass. -/
  | commitInsidePass
  /-- Uniforms or a draw came before the draw state. -/
  | beforeDrawState (command : String)
  /-- A texture is sampled by the pass that renders into it. -/
  | sampledAttachment
  /-- A pipeline is used in a pass of another signature. -/
  | signatureMismatch (pipeline : String) (expected found : Signature)
  /-- A group is drawn that the mesh does not have. -/
  | noSuchGroup (group groups : Nat)
  /-- A failure asked for in advance. -/
  | injected (kind : ResourceKind) (nth : Nat)
  /-- A multisampled texture is sampled before a pass resolved it. -/
  | unresolved (texture : String)
  /-- A texture cannot be sampled, by its usage or because no pass resolved it. -/
  | notSampleable (texture : String)
  /-- A draw state binds fewer textures than the pipeline samples. -/
  | tooFewTextures (pipeline : String) (needed bound : Nat)
  /-- A stage takes no uniforms. -/
  | noUniformBlock (pipeline : String) (stage : ShaderStage)
  /-- Uniforms are too long or no whole number of words. -/
  | uniformSize (bytes : Nat) (block : UInt32) (pipeline : String)
  /-- A resource is released while a frame is recorded. -/
  | releaseInFrame (id : ResourceId)
  /-- There is no frame to acquire an image for. -/
  | noFrame
  /-- The sample count of a texture or pipeline is none that a GPU has. -/
  | sampleCount (owner : ResourceKind) (name : String) (samples : UInt32)
  /-- Textures do not make a pass. -/
  | pass (name : String) (fault : PassFault)
  /-- The code of a shader cannot be read. -/
  | unreadableCode
  /-- The code of a shader has no function to start with. -/
  | noEntryPoint
  /-- The name of an entry point holds a NUL character. -/
  | entryPointName (shader : String)
  /-- A call of the driver failed. -/
  | driver (action : String) (code : Vulkan.ResultCode)
  /-- Another cause in its own words. -/
  | text (words : String)
  deriving DecidableEq, Repr

/-- The cause in words. -/
def BackendCause.message : BackendCause → String
  | outsidePass c => s!"{c} called outside of a pass"
  | nestedPass => "begin_pass called while another pass is active"
  | endWithoutBegin => "end_pass called without begin_pass"
  | commitInsidePass => "commit_frame called inside a pass"
  | beforeDrawState c => s!"{c} called before apply_draw_state"
  | sampledAttachment => "texture sampled while bound as an attachment"
  | signatureMismatch p expected found =>
    s!"pipeline '{p}' {expected.text} does not match pass {found.text}"
  | noSuchGroup g n => s!"primitive group {g} out of range ({n} groups)"
  | injected k n => s!"injected failure creating {k.name} #{n}"
  | unresolved t => s!"multisampled texture '{t}' sampled before being resolved"
  | notSampleable t => s!"texture '{t}' cannot be sampled yet (not sampled usage or not resolved)"
  | tooFewTextures p needed bound =>
    s!"pipeline '{p}' samples {needed} texture(s), draw state binds {bound}"
  | noUniformBlock p stage => s!"pipeline '{p}' has no {stage.name} uniform block"
  | uniformSize n block p =>
    s!"uniform data of {n} bytes does not fit the {block.toNat}-byte block of '{p}'"
  | releaseInFrame id => s!"cannot release {id.text} while a frame is being recorded"
  | noFrame => "no frame is being recorded"
  | sampleCount k n samples => s!"{k.noun} '{n}': unsupported sample count {samples.toNat}"
  | pass n f => s!"pass '{n}'{f.message}"
  | unreadableCode => "SPIR-V reflection failed"
  | noEntryPoint => "SPIR-V module has no entry point"
  | entryPointName s => s!"shader '{s}' entry point contains a NUL byte"
  | driver action code => s!"Failed to {action}: {code.text}"
  | text w => w

/-- Why a device or program cannot be set up. -/
inductive InitializationCause where
  /-- There is no driver. -/
  | noDriver
  /-- The name of the application holds a NUL character. -/
  | applicationName
  /-- Something of the window is not to be had. -/
  | window (what problem : String)
  /-- No GPU can draw to the window. -/
  | noGpu
  /-- The surface has no format with a name. -/
  | noSurfaceFormat
  /-- A call of the driver failed. -/
  | driver (action : String) (code : Vulkan.ResultCode)
  /-- A file of compiled code cannot be read. -/
  | shaderFile (path problem : String)
  /-- Another cause in its own words. -/
  | text (words : String)
  deriving DecidableEq, Repr

/-- The cause in words. -/
def InitializationCause.message : InitializationCause → String
  | noDriver => "Failed to load Vulkan library"
  | applicationName => "application name contains a NUL byte"
  | window what problem => s!"Failed to get {what}: {problem}"
  | noGpu => "No Vulkan-capable GPU with a present queue found"
  | noSurfaceFormat => "No supported surface format"
  | driver action code => s!"Failed to {action}: {code.text}"
  | shaderFile path problem => s!"cannot read shader {path}: {problem}"
  | text w => w

/-- An error of the engine. -/
inductive EngineError where
  /-- A command was refused or failed. -/
  | backend (cause : BackendCause)
  /-- There is no more memory. -/
  | outOfMemory
  /-- A resource is not valid. -/
  | invalid (cause : InvalidCause)
  /-- Something could not be set up. -/
  | initialization (cause : InitializationCause)
  deriving DecidableEq, Repr

namespace EngineError

/-- The kind of the error. -/
def kind : EngineError → String
  | backend _ => "BackendError"
  | outOfMemory => "OutOfMemory"
  | invalid _ => "InvalidResource"
  | initialization _ => "InitializationFailed"

/-- The error in words. -/
def message : EngineError → String
  | backend c => "Backend error: " ++ c.message
  | outOfMemory => "Out of GPU memory"
  | invalid c => "Invalid resource: " ++ c.message
  | initialization c => "Initialization failed: " ++ c.message

/-- The error of a kind with given words. -/
def ofKind (kind words : String) : Option EngineError :=
  match kind with
  | "BackendError" => some (.backend (.text words))
  | "OutOfMemory" => some .outOfMemory
  | "InvalidResource" => some (.invalid (.text words))
  | "InitializationFailed" => some (.initialization (.text words))
  | _ => none

end EngineError

/-- A step that fails with an error of the engine. -/
abbrev Step (σ α : Type) := StepWith EngineError σ α

end RenderTargets
