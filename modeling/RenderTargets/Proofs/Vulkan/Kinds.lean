import RenderTargets.Proofs.Vulkan.Frames
import RenderTargets.Proofs.Vulkan.Respects
import RenderTargets.Proofs.Vulkan.Screen
/-!
# What the parts of a device make and end

Each part makes and ends objects of a few kinds: resources, frame slots, and the screen. None of
them asks for an image of the screen or shows one, and none waits for a fence; that is for frames.
-/

namespace RenderTargets.Vulkan

open StepWith Run

/-! ### Kinds -/

/-- What can be rendered into, by resources and by the screen. -/
def targetKinds : List ObjectKind := [.image, .memory, .view, .renderPass, .framebuffer]

/-- What resources are made of. A command buffer is made for an upload. -/
def resourceKinds : List ObjectKind :=
  [.buffer, .shaderModule, .setLayout, .pipelineLayout, .pipeline, .commandBuffer] ++ targetKinds

/-- What the screen is made of. -/
def screenKinds : List ObjectKind := [.semaphore, .swapchain, .surface] ++ targetKinds

/-- What frame slots give back. The command buffer of a slot goes with its pool. -/
def slotKinds : List ObjectKind := [.fence, .descriptorPool]

namespace Call

/-- The calls that make and end what can be rendered into. -/
def ofTargets : Call → Bool := touches targetKinds targetKinds

/-- The calls that resources are made and given up with. -/
def ofResources : Call → Bool := touches resourceKinds resourceKinds

/-- The calls that the screen is made and given up with. -/
def ofScreen : Call → Bool := touches screenKinds screenKinds

/-- The calls that frame slots are made and given up with. -/
def ofSlots : Call → Bool := touches (.commandBuffer :: slotKinds) slotKinds

end Call

namespace Run.Respects

variable {α : Type} {x : Run α} (hx : Respects (Driver.Only Call.ofTargets) x)
include hx

theorem resources : Respects (Driver.Only Call.ofResources) x := hx.widen (by decide) (by decide)

theorem screen : Respects (Driver.Only Call.ofScreen) x := hx.widen (by decide) (by decide)

end Run.Respects

variable {ctx : Context}

/-! ### Memory, images and buffers -/

theorem only_allocate {name : String} {question : CallName} {size : ℕ} :
    Respects (Driver.Only Call.ofTargets) (allocate name question size) := by
  refine .bind (.driving fun _ ↦ .of_continues Driver.continues_query) fun r ↦ ?_
  cases r with
  | ok =>
    refine .bind (.driving fun _ ↦ .of_continues Driver.continues_fresh) fun _ ↦ ?_
    exact .bind (.push rfl) fun _ ↦ .pure
  | error => exact .get_bind fun _ ↦ .bind .note fun _ ↦ .fail

theorem only_free {m : Object .memory} : Respects (Driver.Only Call.ofTargets) (free m) :=
  .push rfl

namespace Image

theorem only_complete {name : String} {image : Object .image} {info : ImageInfo} {aspect : Flags}
    {memory : Object .memory} :
    Respects (Driver.Only Call.ofTargets) (complete name image info aspect memory) :=
  .bind (.perform (fun _ ↦ rfl) rfl) fun _ ↦ .bind (.make (fun _ ↦ rfl) fun _ ↦ rfl) fun _ ↦ .pure

theorem only_create {name : String} {info : ImageInfo} {aspect : Flags} :
    Respects (Driver.Only Call.ofTargets) (create name info aspect) := by
  refine .bind (.make (fun _ ↦ rfl) fun _ ↦ rfl) fun image ↦ ?_
  refine .bind .share fun _ ↦ ?_
  refine .undoing (.bind .destroy fun _ ↦ .unshare) ?_ (.bind (.destroy rfl) fun _ ↦ .unshare)
  exact .bind only_allocate fun _ ↦ .undoing silent_free only_complete only_free

theorem only_drop (i : Image) : Respects (Driver.Only Call.ofTargets) i.drop :=
  .bind (.destroy rfl) fun _ ↦ .bind only_free fun _ ↦ .bind (.destroy rfl) fun _ ↦ .unshare

theorem only_dropOption (o : Option Image) :
    Respects (Driver.Only Call.ofTargets) (dropOption o) := by
  cases o with
  | some i => exact i.only_drop
  | none => exact .pure

end Image

namespace Buffer

theorem only_complete {name : String} {buffer : Object .buffer} {size : ℕ} {bytes : List UInt8}
    {memory : Object .memory} :
    Respects (Driver.Only Call.ofResources) (complete name buffer size bytes memory) := by
  refine .bind (.work fun _ ↦ .bindBuffer (fun _ ↦ rfl) rfl) fun _ ↦ ?_
  exact .bind (.changeDriver fun _ ↦ .of_eq rfl rfl) fun _ ↦ .pure

theorem only_create {name : String} {usage : Flags} {bytes : List UInt8} :
    Respects (Driver.Only Call.ofResources) (create name usage bytes) := by
  refine .bind (.make (fun _ ↦ rfl) fun _ ↦ rfl) fun buffer ↦ ?_
  refine .bind .share fun _ ↦ ?_
  refine .undoing (.bind .destroy fun _ ↦ .unshare) ?_ (.bind (.destroy rfl) fun _ ↦ .unshare)
  exact .bind only_allocate.resources fun _ ↦ .undoing silent_free only_complete only_free.resources

theorem only_drop (u : Buffer) : Respects (Driver.Only Call.ofResources) u.drop :=
  .bind only_free.resources fun _ ↦ .bind (.destroy rfl) fun _ ↦ .unshare

end Buffer

/-! ### Meshes and textures -/

namespace Mesh

theorem only_createIndices {d : MeshDesc} :
    Respects (Driver.Only Call.ofResources) (createIndices d) := by
  rw [createIndices]
  split
  · exact .pure
  · exact .bind Buffer.only_create fun _ ↦ .pure

theorem only_create {d : MeshDesc} : Respects (Driver.Only Call.ofResources) (create d) := by
  refine .bind .ofChecked fun _ ↦ ?_
  refine .bind Buffer.only_create fun v ↦ ?_
  refine .bind (.undoing v.silent_drop only_createIndices v.only_drop) fun _ ↦ ?_
  exact .bind .note fun _ ↦ .pure

theorem only_drop (m : Mesh) : Respects (Driver.Only Call.ofResources) m.drop := by
  refine .bind m.vertices.only_drop fun _ ↦ ?_
  split
  · exact Buffer.only_drop _
  · exact .pure

end Mesh

/-- An upload signals nothing but the queue. -/
theorem only_runAtOnce {c : Recorded} :
    Respects (Driver.Only Call.ofResources) (runAtOnce ctx fun b ↦ Run.record b c) := by
  refine .bind (.make (fun _ ↦ rfl) fun _ ↦ rfl) fun b ↦ .bind (.attempt ?_) fun _ ↦
    .bind (.push rfl) fun _ ↦ .ofChecked
  refine .bind (.perform (fun _ ↦ rfl) rfl) fun _ ↦ ?_
  refine .bind (.push rfl) fun _ ↦ ?_
  refine .bind (.perform (fun _ ↦ rfl) rfl) fun _ ↦ ?_
  exact .bind (.perform (fun _ ↦ rfl) rfl) fun _ ↦ .perform (fun _ ↦ rfl) rfl

namespace Texture

theorem only_createDepth {d : TextureDesc} {samples : Flags} :
    Respects (Driver.Only Call.ofResources) (createDepth ctx d samples) := by
  rw [createDepth]
  split
  · exact .pure
  · exact .bind Image.only_create.resources fun _ ↦ .pure

theorem only_createResolve {d : TextureDesc} :
    Respects (Driver.Only Call.ofResources) (createResolve ctx d) :=
  .ite (.bind Image.only_create.resources fun _ ↦ .pure) .pure

theorem only_createImages {d : TextureDesc} {samples : Flags} :
    Respects (Driver.Only Call.ofResources) (createImages ctx d samples) := by
  refine .bind Image.only_create.resources fun color ↦ ?_
  refine .undoing color.silent_drop ?_ color.only_drop.resources
  refine .bind only_createResolve fun resolve ↦ ?_
  refine .bind ?_ fun _ ↦ .pure
  exact .undoing (Image.silent_dropOption resolve) only_createDepth
    (Image.only_dropOption resolve).resources

theorem only_drop (t : Texture) : Respects (Driver.Only Call.ofResources) t.drop := by
  refine .bind t.color.only_drop.resources fun _ ↦ ?_
  exact .bind (Image.only_dropOption _).resources fun _ ↦ (Image.only_dropOption _).resources

theorem only_prepareForSampling (t : Texture) :
    Respects (Driver.Only Call.ofResources) (t.prepareForSampling ctx) := by
  rw [prepareForSampling]
  split
  · exact .pure
  · exact only_runAtOnce

theorem only_create {d : TextureDesc} : Respects (Driver.Only Call.ofResources) (create ctx d) := by
  refine .bind .ofChecked fun _ ↦ ?_
  split
  · exact .refuse
  · refine .bind only_createImages fun t ↦ ?_
    exact .bind (.undoing t.silent_drop t.only_prepareForSampling t.only_drop) fun _ ↦ .pure

end Texture

/-! ### Shaders, pipelines and passes -/

theorem ShaderModule.only_create {shader : String} {stage : ShaderStage} {d : ModuleDesc} :
    Respects (Driver.Only Call.ofResources) (create ctx shader stage d) := by
  refine .bind .ofChecked fun words ↦ .bind ?_ fun _ ↦ ?_
  · rw [readInterface]
    split
    · exact .pure
    · exact .refuse
    · exact .trap
  · refine .ite (.bind .refuse fun _ ↦ ?_) ?_ <;>
      exact .bind (.make (fun _ ↦ rfl) fun _ ↦ rfl) fun _ ↦ .pure

namespace Shader

theorem only_create {d : ShaderDesc} : Respects (Driver.Only Call.ofResources) (create ctx d) := by
  refine .bind .ofChecked fun _ ↦ ?_
  refine .bind ShaderModule.only_create fun _ ↦ ?_
  refine .bind (.undoingOnError ShaderModule.only_create (.destroy rfl)) fun _ ↦ ?_
  exact .bind .note fun _ ↦ .bind .share fun _ ↦ .pure

theorem only_drop (s : Shader) : Respects (Driver.Only Call.ofResources) s.drop :=
  .bind (.destroy rfl) fun _ ↦ .bind (.destroy rfl) fun _ ↦ .unshare

end Shader

theorem only_createRenderPass {l : PassLayout} :
    Respects (Driver.Only Call.ofTargets) (createRenderPass l) :=
  .make (fun _ ↦ rfl) fun _ ↦ rfl

theorem only_createFramebuffer {pass : Object .renderPass} {views : List (Object .view)}
    {extent : Extent} :
    Respects (Driver.Only Call.ofTargets) (createFramebuffer pass views extent) :=
  .make (fun _ ↦ rfl) fun _ ↦ rfl

namespace Pipeline

theorem only_build {d : PipelineDesc} {s : Shader} {samples : Flags}
    {layout : Object .pipelineLayout} {pass : Object .renderPass} :
    Respects (Driver.Only Call.ofResources) (build d s samples layout pass) :=
  .bind .orTrap fun _ ↦ .make (fun _ ↦ rfl) fun _ ↦ rfl

theorem only_buildForStandIn {d : PipelineDesc} {s : Shader} {samples : Flags}
    {layout : Object .pipelineLayout} :
    Respects (Driver.Only Call.ofResources) (buildForStandIn ctx d s samples layout) := by
  refine .bind only_createRenderPass.resources fun _ ↦ ?_
  exact .bind (.attempt only_build) fun _ ↦ .bind (.destroy rfl) fun _ ↦ .ofChecked

theorem only_createWith {d : PipelineDesc} {s : Shader} {samples : Flags}
    {setLayout : Object .setLayout} :
    Respects (Driver.Only Call.ofResources) (createWith ctx d s samples setLayout) := by
  refine .bind (.make (fun _ ↦ rfl) fun _ ↦ rfl) fun _ ↦ ?_
  exact .bind (.undoing .destroy only_buildForStandIn (.destroy rfl)) fun _ ↦ .pure

theorem only_create {d : PipelineDesc} {s : Shader} :
    Respects (Driver.Only Call.ofResources) (create ctx d s) := by
  refine .bind .ofChecked fun _ ↦ ?_
  split
  · exact .refuse
  · refine .bind .share fun _ ↦ ?_
    refine .bind (.undoing .unshare (.make (fun _ ↦ rfl) fun _ ↦ rfl) .unshare) fun _ ↦ ?_
    refine .bind (.undoing (.bind .destroy fun _ ↦ .unshare) only_createWith
      (.bind (.destroy rfl) fun _ ↦ .unshare)) fun _ ↦ ?_
    exact .bind .note fun _ ↦ .pure

theorem only_drop (p : Pipeline) : Respects (Driver.Only Call.ofResources) p.drop :=
  .bind (.destroy rfl) fun _ ↦ .bind (.destroy rfl) fun _ ↦ .bind (.destroy rfl) fun _ ↦ .unshare

end Pipeline

namespace Pass

theorem only_create {d : PassDesc} {textures : TextureMap} {limit : UInt32} :
    Respects (Driver.Only Call.ofResources) (create ctx d textures limit) := by
  refine .bind .ofChecked fun _ ↦ ?_
  split
  · exact .refuse
  · refine .bind only_createRenderPass.resources fun _ ↦ ?_
    refine .bind (.undoingOnError only_createFramebuffer.resources (.destroy rfl)) fun _ ↦ ?_
    exact .bind .share fun _ ↦ .pure

theorem only_drop (p : Pass) : Respects (Driver.Only Call.ofResources) p.drop :=
  .bind (.destroy rfl) fun _ ↦ .bind (.destroy rfl) fun _ ↦ .unshare

end Pass

/-! ### Frame slots -/

namespace FrameSlot

theorem only_drop (f : FrameSlot) : Respects (Driver.Only Call.ofSlots) f.drop :=
  .bind (.destroy rfl) fun _ ↦ .bind (.destroy rfl) fun _ ↦ .unshare

theorem only_create {frames : Object .commandPool} :
    Respects (Driver.Only Call.ofSlots) (create frames) := by
  refine .bind (.setUpMake (fun _ ↦ rfl) fun _ ↦ rfl) fun commands ↦ ?_
  refine .bind .share fun _ ↦ .construct ?_ silent_drop only_drop
  refine .bind (.lift (.setUpMake (fun _ ↦ rfl) fun _ ↦ rfl)) fun _ ↦ ?_
  exact .bind .change fun _ ↦ .bind (.lift (.setUpMake (fun _ ↦ rfl) fun _ ↦ rfl)) fun _ ↦ .change

theorem only_createMany {frames : Object .commandPool} {n : ℕ} {slots : List FrameSlot} :
    Respects (Driver.Only Call.ofSlots) (createMany frames slots n) := by
  induction n generalizing slots with
  | zero => exact .pure
  | succ n ih =>
    exact .bind (.undoing (.each fun f _ ↦ f.silent_drop) only_create (.each only_drop _))
      fun _ ↦ ih

end FrameSlot

/-! ### The screen -/

namespace Swapchain

theorem only_releaseImages (s : Swapchain) : Respects (Driver.Only Call.ofScreen) s.releaseImages :=
  .bind (.each (fun _ ↦ .destroy rfl) _) fun _ ↦ .bind (.each (fun _ ↦ .destroy rfl) _) fun _ ↦
    .bind (Image.only_dropOption _).screen fun _ ↦ .pure

theorem only_drop (s : Swapchain) : Respects (Driver.Only Call.ofScreen) (s.drop ctx) := by
  refine .bind (.tryPerform (fun _ ↦ rfl) rfl) fun _ ↦ ?_
  refine .bind s.only_releaseImages fun _ ↦ ?_
  refine .bind (.each (fun _ ↦ .destroy rfl) _) fun _ ↦ ?_
  refine .bind (.destroy rfl) fun _ ↦ ?_
  exact .bind (.destroy rfl) fun _ ↦ .bind (.destroy rfl) fun _ ↦ .unshare

theorem only_replace {c : SurfaceCapabilities} {modes : List Code} {extent : Extent} :
    RunOn.Respects (Driver.Only Call.ofScreen) (replace c modes extent) := by
  refine .part_bind fun _ ↦ ?_
  refine .bind .orTrap fun _ ↦ ?_
  refine .bind (.lift (.setUp fun _ ↦ .createSwapchain (fun _ ↦ rfl) fun _ ↦ rfl)) fun _ ↦ ?_
  refine .bind (.lift (.destroy rfl)) fun _ ↦ ?_
  refine .bind .change fun _ ↦ ?_
  exact .bind (.lift (.setUp fun _ ↦ .of_continues Driver.continues_enumerate)) fun _ ↦ .change

theorem only_addViews (images : List (Object .screenImage)) :
    RunOn.Respects (Driver.Only Call.ofScreen) (addViews images) := by
  induction images with
  | nil => exact .pure
  | cons image rest ih =>
    refine .part_bind fun _ ↦ ?_
    exact .bind (.lift (.setUpMake (fun _ ↦ rfl) fun _ ↦ rfl)) fun _ ↦ .bind .change fun _ ↦ ih

theorem only_addFramebuffers (depth : Image) (views : List (Object .view)) :
    RunOn.Respects (Driver.Only Call.ofScreen) (addFramebuffers depth views) := by
  induction views with
  | nil => exact .pure
  | cons view rest ih =>
    refine .part_bind fun _ ↦ ?_
    exact .bind (.lift only_createFramebuffer.screen) fun _ ↦ .bind .change fun _ ↦ ih

theorem only_addDepth : RunOn.Respects (Driver.Only Call.ofScreen) (addDepth ctx) := by
  refine .part_bind fun _ ↦ ?_
  refine .bind (.lift Image.only_create.screen) fun depth ↦ ?_
  refine .bind (.undoing depth.silent_drop (only_addFramebuffers depth _) depth.only_drop.screen)
    fun _ ↦ ?_
  exact .change

theorem only_addRenderFinished (n : ℕ) :
    RunOn.Respects (Driver.Only Call.ofScreen) (addRenderFinished n) := by
  induction n with
  | zero => exact .pure
  | succ n ih =>
    exact .bind (.lift (.setUpMake (fun _ ↦ rfl) fun _ ↦ rfl)) fun _ ↦ .bind .change fun _ ↦ ih

theorem only_addImageAvailable (n : ℕ) :
    RunOn.Respects (Driver.Only Call.ofScreen) (addImageAvailable n) := by
  induction n with
  | zero => exact .pure
  | succ n ih =>
    exact .bind (.lift (.setUpMake (fun _ ↦ rfl) fun _ ↦ rfl)) fun _ ↦ .bind .change fun _ ↦ ih

theorem only_build {size : Extent} :
    RunOn.Respects (Driver.Only Call.ofScreen) (build ctx size) := by
  refine .get_bind fun _ ↦ ?_
  refine .bind (.lift .ask) fun _ ↦ ?_
  refine .bind (.lift (.driving fun _ ↦ .of_continues Driver.continues_enumerate)) fun _ ↦ ?_
  refine .bind .orTrap fun _ ↦ ?_
  refine .ite ?_ ?_
  · exact .bind .note fun _ ↦ .change
  · refine .bind only_replace fun _ ↦ ?_
    refine .part_bind fun _ ↦ ?_
    refine .bind (only_addViews _) fun _ ↦ ?_
    exact .bind only_addDepth fun _ ↦ .part_bind fun _ ↦ only_addRenderFinished _

theorem only_pickFormat {p : Call → Bool} : Respects (Driver.Only p) pickFormat := by
  refine .get_bind fun _ ↦ .bind .askAll fun _ ↦ ?_
  dsimp only
  split
  · exact .pure
  · exact .giveUp

/-- What makes a screen of what owns only surface and pass. -/
theorem only_construct {s : Swapchain} {size : Extent} {frames : ℕ} :
    Respects (Driver.Only Call.ofScreen) (RunOn.construct s
      (do
        addImageAvailable frames
        build ctx size)
      (drop ctx)) :=
  .construct (.bind (only_addImageAvailable _) fun _ ↦ only_build) (fun s ↦ s.silent_drop ctx)
    fun s ↦ s.only_drop

theorem only_create {surface : Object .surface} {size : Extent} {vsync : Bool} {frames : ℕ} :
    Respects (Driver.Only Call.ofScreen) (create ctx surface size vsync frames) := by
  refine .bind only_pickFormat fun _ ↦ ?_
  exact .bind only_createRenderPass.screen fun _ ↦ .bind .share fun _ ↦ only_construct

end Swapchain

end RenderTargets.Vulkan
