import RenderTargets.Proofs.Vulkan.OutsideFrames
import RenderTargets.Proofs.Vulkan.Frames
import RenderTargets.Proofs.Vulkan.Screen
/-!
# Parts that leave frames alone

Every part of a device works outside frames: images, buffers, textures, meshes, shaders, pipelines,
passes and the screen. So are frame slots made and given up; only beginning a frame and handing it
over are steps of one. Making a texture is the only thing with an upload.
-/

namespace RenderTargets.Vulkan

open StepWith Run

variable {uploads : Object .commandPool} {ctx : Context}

/-! ### Memory, images and buffers -/

theorem outsideFrames_allocate {name : String} {question : CallName} {size : ℕ} :
    IsOutsideFrames uploads (allocate name question size) := by
  refine .bind (.driving fun _ ↦ Driver.adds_query) fun r ↦ ?_
  cases r with
  | ok => exact .bind (.driving fun _ ↦ Driver.adds_fresh) fun _ ↦ .bind (.push trivial) fun _ ↦
    .pure
  | error => exact .get_bind fun _ ↦ .bind .note fun _ ↦ .fail

theorem outsideFrames_free {m : Object .memory} : IsOutsideFrames uploads (free m) := .push trivial

namespace Image

theorem outsideFrames_complete {name : String} {image : Object .image} {info : ImageInfo}
    {aspect : Flags}
    {memory : Object .memory} : IsOutsideFrames uploads (complete name image info aspect memory) :=
  .bind (.work fun _ ↦ Driver.adds_perform rfl trivial) fun _ ↦
    .bind (.work fun _ ↦ Driver.adds_create rfl fun _ ↦ trivial) fun _ ↦ .pure

theorem outsideFrames_create {name : String} {info : ImageInfo} {aspect : Flags} :
    IsOutsideFrames uploads (create name info aspect) := by
  refine .bind (.work fun _ ↦ Driver.adds_create rfl fun _ ↦ trivial) fun image ↦ ?_
  refine .bind .share fun _ ↦ ?_
  refine .undoing (.bind .destroy fun _ ↦ .unshare) ?_ (.bind .destroy fun _ ↦ .unshare)
  exact .bind outsideFrames_allocate fun _ ↦ .undoing silent_free outsideFrames_complete
    outsideFrames_free

theorem outsideFrames_drop (i : Image) : IsOutsideFrames uploads i.drop :=
  .bind .destroy fun _ ↦ .bind outsideFrames_free fun _ ↦ .bind .destroy fun _ ↦ .unshare

theorem outsideFrames_dropOption (o : Option Image) : IsOutsideFrames uploads (dropOption o) := by
  cases o with
  | some i => exact i.outsideFrames_drop
  | none => exact .pure

theorem outsideFrames_createDepth {name : String} {extent : Extent} {format : Format}
    {samples : Flags} :
    IsOutsideFrames uploads (createDepth ctx name extent format samples) :=
  outsideFrames_create

end Image

namespace Buffer

theorem outsideFrames_complete {name : String} {buffer : Object .buffer} {size : ℕ}
    {bytes : List UInt8}
    {memory : Object .memory} : IsOutsideFrames uploads (complete name buffer size bytes memory) :=
  .bind (.work fun _ ↦ Driver.adds_bindBuffer) fun _ ↦
    .bind (.changeDriver fun _ ↦ Driver.adds_write) fun _ ↦ .pure

theorem outsideFrames_create {name : String} {usage : Flags} {bytes : List UInt8} :
    IsOutsideFrames uploads (create name usage bytes) := by
  refine .bind (.work fun _ ↦ Driver.adds_create rfl fun _ ↦ trivial) fun buffer ↦ ?_
  refine .bind .share fun _ ↦ ?_
  refine .undoing (.bind .destroy fun _ ↦ .unshare) ?_ (.bind .destroy fun _ ↦ .unshare)
  exact .bind outsideFrames_allocate fun _ ↦ .undoing silent_free outsideFrames_complete
    outsideFrames_free

theorem outsideFrames_drop (u : Buffer) : IsOutsideFrames uploads u.drop :=
  .bind outsideFrames_free fun _ ↦ .bind .destroy fun _ ↦ .unshare

end Buffer

/-! ### Meshes and textures -/

namespace Mesh

theorem outsideFrames_createIndices {d : MeshDesc} : IsOutsideFrames uploads (createIndices d) := by
  rw [createIndices]
  split
  · exact .pure
  · exact .bind Buffer.outsideFrames_create fun _ ↦ .pure

theorem outsideFrames_create {d : MeshDesc} : IsOutsideFrames uploads (create d) := by
  refine .bind .ofChecked fun _ ↦ ?_
  refine .bind Buffer.outsideFrames_create fun v ↦ ?_
  refine .bind (.undoing v.silent_drop outsideFrames_createIndices v.outsideFrames_drop) fun _ ↦ ?_
  exact .bind .note fun _ ↦ .pure

theorem outsideFrames_drop (m : Mesh) : IsOutsideFrames uploads m.drop := by
  refine .bind m.vertices.outsideFrames_drop fun _ ↦ ?_
  split
  · exact Buffer.outsideFrames_drop _
  · exact .pure

end Mesh

/-! ### Uploads -/

/-- Since the driver was `d₀`, everything was done outside frames, and then an upload began. -/
structure Uploading (uploads : Object .commandPool) (d₀ : Driver) (b : Object .commandBuffer)
    (h : Host) : Prop where
  /-- The script is the same. -/
  script : h.driver.script = d₀.script
  /-- Objects may have been made. -/
  count_le : ∀ k, d₀.made.count k ≤ h.driver.made.count k
  /-- The buffer is new. -/
  number : d₀.made.count .commandBuffer < b.number
  /-- The calls. -/
  calls : ∃ work l, h.driver.calls = work ++ .allocateCommandBuffer b uploads :: (l ++ d₀.calls) ∧
    (∀ c ∈ work, c.IsUpload b) ∧ OutsideFrames uploads (d₀.made.count .commandBuffer) l

namespace Uploading

variable {d₀ : Driver} {b : Object .commandBuffer} {c : Call} {name : CallName} {action : String}

theorem push {h : Host} (hh : Uploading uploads d₀ b h) (hc : c.IsUpload b) :
    Uploading uploads d₀ b { h with driver := h.driver.push c } := by
  obtain ⟨work, l, hcalls, hw, hl⟩ := hh.calls
  refine ⟨hh.script, hh.count_le, hh.number, c :: work, l, congrArg (c :: ·) hcalls, ?_, hl⟩
  exact List.forall_mem_cons.2 ⟨hc, hw⟩

theorem keeps_perform (hname : name ≠ .allocateDescriptorSets) (hc : c.IsUpload b) :
    Keeps (Uploading uploads d₀ b) (work action (Driver.perform name c)) := by
  have htally (h : Host) (hh : Uploading uploads d₀ b h) :
      Uploading uploads d₀ b { h with driver := (h.driver.tally name).2 } :=
    ⟨hh.script, hh.count_le, hh.number, hh.calls⟩
  refine meets_work (fun h _ d hh hd ↦ ?_) (fun h code d hh hd ↦ ?_) fun _ _ hh ↦ ?_
  · rw [Driver.perform_ok hd]
    exact (htally h hh).push hc
  · rw [Driver.perform_error hd]
    exact (htally h hh).push hname
  · exact ⟨hh.script, hh.count_le, hh.number, hh.calls⟩

theorem keeps_recordAndWait {c : Recorded} (hc : c.IsPreparation) :
    Keeps (Uploading uploads d₀ b) (recordAndWait ctx b fun b ↦ Run.record b c) := by
  have hrecord : (Call.record b c).IsUpload b := ⟨rfl, hc⟩
  have hrun : Keeps (Uploading uploads d₀ b) (Run.record b c) :=
    meets_changeDriver fun _ hh ↦ hh.push hrecord
  refine Meets.bind (Q := fun _ ↦ Uploading uploads d₀ b) (keeps_perform nofun rfl) fun _ ↦ ?_
  refine Meets.bind hrun fun _ ↦ ?_
  refine Meets.bind (Q := fun _ ↦ Uploading uploads d₀ b) (keeps_perform nofun rfl) fun _ ↦ ?_
  refine Meets.bind (Q := fun _ ↦ Uploading uploads d₀ b) (keeps_perform nofun rfl) fun _ ↦ ?_
  exact keeps_perform nofun trivial

/-- With its buffer given back, the upload is complete. -/
theorem since {h : Host} (hh : Uploading uploads d₀ b h) :
    Since uploads d₀ { h with driver := h.driver.push (.freeCommandBuffer uploads b) } := by
  obtain ⟨work, l, hcalls, hw, hl⟩ := hh.calls
  refine ⟨⟨hh.count_le, _, ?_, .upload hl hh.number hw⟩, hh.script⟩
  show .freeCommandBuffer uploads b :: h.driver.calls = _
  rw [hcalls]
  simp

end Uploading

/-- An upload is done as a whole, whatever fails in it. -/
theorem outsideFrames_runAtOnce {c : Recorded} (hc : c.IsPreparation) :
    IsOutsideFrames ctx.uploadPool (runAtOnce ctx fun b ↦ Run.record b c) := by
  intro d₀
  refine .bind (Q := fun b ↦ Uploading ctx.uploadPool d₀ b) (meets_work ?_ ?_ fun _ _ h ↦ h)
    fun b ↦ ?_
  · intro h b d hh hd
    obtain ⟨rfl, rfl⟩ := Driver.create_ok hd
    obtain ⟨l, hcalls, hl⟩ := hh.calls
    refine ⟨hh.script, fun k ↦ (hh.count_le k).trans List.count_le_count_cons, ?_, [], l, ?_,
      List.forall_mem_nil _, hl⟩
    · exact Nat.lt_succ_of_le (hh.count_le _)
    · exact congrArg (Call.allocateCommandBuffer _ _ :: ·) hcalls
  · intro h code d hh hd
    rw [Driver.create_error hd]
    exact hh.trans (Driver.adds_tally.trans (Driver.adds_push rfl))
  · refine .bind (.attempt (R := fun _ ↦ Uploading ctx.uploadPool d₀ b)
      (Uploading.keeps_recordAndWait hc)) fun _ ↦ ?_
    refine .bind (Q := fun _ ↦ Since ctx.uploadPool d₀)
      (meets_changeDriver fun _ hh ↦ hh.since) fun _ ↦ ?_
    exact .ofChecked (fun _ _ _ h ↦ h) fun _ _ _ h ↦ h

namespace Texture

theorem outsideFrames_createDepth {d : TextureDesc} {samples : Flags} :
    IsOutsideFrames uploads (createDepth ctx d samples) := by
  rw [createDepth]
  split
  · exact .pure
  · exact .bind Image.outsideFrames_createDepth fun _ ↦ .pure

theorem outsideFrames_createResolve {d : TextureDesc} :
    IsOutsideFrames uploads (createResolve ctx d) :=
  .ite (.bind Image.outsideFrames_create fun _ ↦ .pure) .pure

theorem outsideFrames_createImages {d : TextureDesc} {samples : Flags} :
    IsOutsideFrames uploads (createImages ctx d samples) := by
  refine .bind Image.outsideFrames_create fun color ↦ ?_
  refine .undoing color.silent_drop ?_ color.outsideFrames_drop
  refine .bind outsideFrames_createResolve fun resolve ↦ ?_
  refine .bind ?_ fun _ ↦ .pure
  exact .undoing (Image.silent_dropOption resolve) outsideFrames_createDepth
    (Image.outsideFrames_dropOption resolve)

theorem outsideFrames_drop (t : Texture) : IsOutsideFrames uploads t.drop := by
  refine .bind t.color.outsideFrames_drop fun _ ↦ ?_
  exact .bind (Image.outsideFrames_dropOption _) fun _ ↦ Image.outsideFrames_dropOption _

theorem outsideFrames_prepareForSampling (t : Texture) :
    IsOutsideFrames ctx.uploadPool (t.prepareForSampling ctx) := by
  rw [prepareForSampling]
  split
  · exact .pure
  · exact outsideFrames_runAtOnce trivial

theorem outsideFrames_create {d : TextureDesc} : IsOutsideFrames ctx.uploadPool (create ctx d) := by
  refine .bind .ofChecked fun _ ↦ ?_
  split
  · exact .refuse
  · refine .bind outsideFrames_createImages fun t ↦ ?_
    refine .bind (.undoing t.silent_drop t.outsideFrames_prepareForSampling t.outsideFrames_drop)
      fun _ ↦ ?_
    exact .pure

end Texture

/-! ### Shaders, pipelines and passes -/

theorem ShaderModule.outsideFrames_create {shader : String} {stage : ShaderStage} {d : ModuleDesc} :
    IsOutsideFrames uploads (create ctx shader stage d) := by
  refine .bind .ofChecked fun words ↦ .bind ?_ fun _ ↦ ?_
  · rw [readInterface]
    split
    · exact .pure
    · exact .refuse
    · exact .trap
  · refine .ite (.bind .refuse fun _ ↦ ?_) ?_ <;>
      exact .bind (.work fun _ ↦ Driver.adds_create rfl fun _ ↦ trivial) fun _ ↦ .pure

namespace Shader

theorem outsideFrames_create {d : ShaderDesc} : IsOutsideFrames uploads (create ctx d) := by
  refine .bind .ofChecked fun _ ↦ ?_
  refine .bind ShaderModule.outsideFrames_create fun _ ↦ ?_
  refine .bind (.undoingOnError ShaderModule.outsideFrames_create .destroy) fun _ ↦ ?_
  exact .bind .note fun _ ↦ .bind .share fun _ ↦ .pure

theorem outsideFrames_drop (s : Shader) : IsOutsideFrames uploads s.drop :=
  .bind .destroy fun _ ↦ .bind .destroy fun _ ↦ .unshare

end Shader

theorem outsideFrames_createRenderPass {l : PassLayout} :
    IsOutsideFrames uploads (createRenderPass l) :=
  .work fun _ ↦ Driver.adds_create rfl fun _ ↦ trivial

theorem outsideFrames_createFramebuffer {pass : Object .renderPass} {views : List (Object .view)}
    {extent : Extent} : IsOutsideFrames uploads (createFramebuffer pass views extent) :=
  .work fun _ ↦ Driver.adds_create rfl fun _ ↦ trivial

namespace Pipeline

theorem outsideFrames_build {d : PipelineDesc} {s : Shader} {samples : Flags}
    {layout : Object .pipelineLayout} {pass : Object .renderPass} :
    IsOutsideFrames uploads (build d s samples layout pass) :=
  .bind .orTrap fun _ ↦ .work fun _ ↦ Driver.adds_create rfl fun _ ↦ trivial

theorem outsideFrames_buildForStandIn {d : PipelineDesc} {s : Shader} {samples : Flags}
    {layout : Object .pipelineLayout} :
      IsOutsideFrames uploads (buildForStandIn ctx d s samples layout) := by
  refine .bind outsideFrames_createRenderPass fun _ ↦ ?_
  exact .bind (.attempt outsideFrames_build) fun _ ↦ .bind .destroy fun _ ↦ .ofChecked

theorem outsideFrames_createWith {d : PipelineDesc} {s : Shader} {samples : Flags}
    {setLayout : Object .setLayout} :
      IsOutsideFrames uploads (createWith ctx d s samples setLayout) := by
  refine .bind (.work fun _ ↦ Driver.adds_create rfl fun _ ↦ trivial) fun _ ↦ ?_
  exact .bind (.undoing .destroy outsideFrames_buildForStandIn .destroy) fun _ ↦ .pure

theorem outsideFrames_create {d : PipelineDesc} {s : Shader} :
    IsOutsideFrames uploads (create ctx d s) := by
  refine .bind .ofChecked fun _ ↦ ?_
  split
  · exact .refuse
  · refine .bind .share fun _ ↦ ?_
    refine .bind (.undoing .unshare (.work fun _ ↦ Driver.adds_create rfl fun _ ↦ trivial) .unshare)
      fun _ ↦ ?_
    refine .bind (.undoing (.bind .destroy fun _ ↦ .unshare) outsideFrames_createWith
      (.bind .destroy fun _ ↦ .unshare)) fun _ ↦ ?_
    exact .bind .note fun _ ↦ .pure

theorem outsideFrames_drop (p : Pipeline) : IsOutsideFrames uploads p.drop :=
  .bind .destroy fun _ ↦ .bind .destroy fun _ ↦ .bind .destroy fun _ ↦ .unshare

end Pipeline

namespace Pass

theorem outsideFrames_create {d : PassDesc} {textures : TextureMap} {limit : UInt32} :
    IsOutsideFrames uploads (create ctx d textures limit) := by
  refine .bind .ofChecked fun _ ↦ ?_
  split
  · exact .refuse
  · refine .bind outsideFrames_createRenderPass fun _ ↦ ?_
    refine .bind (.undoingOnError outsideFrames_createFramebuffer .destroy) fun _ ↦ ?_
    exact .bind .share fun _ ↦ .pure

theorem outsideFrames_drop (p : Pass) : IsOutsideFrames uploads p.drop :=
  .bind .destroy fun _ ↦ .bind .destroy fun _ ↦ .unshare

end Pass

/-! ### Frame slots -/

namespace FrameSlot

theorem outsideFrames_drop (f : FrameSlot) : IsOutsideFrames uploads f.drop :=
  .bind .destroy fun _ ↦ .bind .destroy fun _ ↦ .unshare

/-- The buffers of slots come from a pool of their own. -/
theorem outsideFrames_create {frames : Object .commandPool} (h : frames ≠ uploads) :
    IsOutsideFrames uploads (create frames) := by
  refine .bind (.setUp fun _ ↦ Driver.adds_create rfl fun _ ↦ h) fun commands ↦ ?_
  refine .bind .share fun _ ↦ .construct ?_ silent_drop outsideFrames_drop
  refine .bind (.lift (.setUp fun _ ↦ Driver.adds_create rfl fun _ ↦ trivial)) fun _ ↦ ?_
  refine .bind .change fun _ ↦ ?_
  exact .bind (.lift (.setUp fun _ ↦ Driver.adds_create rfl fun _ ↦ trivial)) fun _ ↦ .change

theorem outsideFrames_createMany {frames : Object .commandPool} (h : frames ≠ uploads) {n : ℕ}
    {slots : List FrameSlot} : IsOutsideFrames uploads (createMany frames slots n) := by
  induction n generalizing slots with
  | zero => exact .pure
  | succ n ih =>
    exact .bind (.undoing (.each fun f _ ↦ f.silent_drop) (outsideFrames_create h)
      (.each outsideFrames_drop _))
      fun _ ↦ ih

end FrameSlot

/-! ### The screen -/

namespace Swapchain

theorem outsideFrames_releaseImages (s : Swapchain) : IsOutsideFrames uploads s.releaseImages := by
  refine .bind (.each (fun _ ↦ .destroy) _) fun _ ↦ ?_
  refine .bind (.each (fun _ ↦ .destroy) _) fun _ ↦ ?_
  exact .bind (Image.outsideFrames_dropOption _) fun _ ↦ .pure

theorem outsideFrames_drop (s : Swapchain) : IsOutsideFrames uploads (s.drop ctx) := by
  refine .bind (.tryOut fun _ ↦ Driver.adds_perform rfl trivial) fun _ ↦ ?_
  refine .bind s.outsideFrames_releaseImages fun _ ↦ ?_
  refine .bind (.each (fun _ ↦ .destroy) _) fun _ ↦ ?_
  refine .bind .destroy fun _ ↦ ?_
  exact .bind .destroy fun _ ↦ .bind .destroy fun _ ↦ .unshare

theorem outsideFrames_replace {c : SurfaceCapabilities} {modes : List Code} {extent : Extent} :
    RunOn.IsOutsideFrames uploads (replace c modes extent) := by
  refine .part_bind fun _ ↦ ?_
  refine .bind .orTrap fun _ ↦ ?_
  refine .bind (.lift (.setUp fun _ ↦ Driver.adds_createSwapchain)) fun _ ↦ ?_
  refine .bind (.lift .destroy) fun _ ↦ ?_
  refine .bind .change fun _ ↦ ?_
  exact .bind (.lift (.setUp fun _ ↦ Driver.adds_swapchainImages)) fun _ ↦ .change

theorem outsideFrames_addViews (images : List (Object .screenImage)) :
    RunOn.IsOutsideFrames uploads (addViews images) := by
  induction images with
  | nil => exact .pure
  | cons image rest ih =>
    refine .part_bind fun _ ↦ ?_
    refine .bind (.lift (.setUp fun _ ↦ Driver.adds_create rfl fun _ ↦ trivial)) fun _ ↦ ?_
    exact .bind .change fun _ ↦ ih

theorem outsideFrames_addFramebuffers (depth : Image) (views : List (Object .view)) :
    RunOn.IsOutsideFrames uploads (addFramebuffers depth views) := by
  induction views with
  | nil => exact .pure
  | cons view rest ih =>
    refine .part_bind fun _ ↦ ?_
    exact .bind (.lift outsideFrames_createFramebuffer) fun _ ↦ .bind .change fun _ ↦ ih

theorem outsideFrames_addDepth : RunOn.IsOutsideFrames uploads (addDepth ctx) := by
  refine .part_bind fun _ ↦ ?_
  refine .bind (.lift Image.outsideFrames_createDepth) fun depth ↦ ?_
  refine .bind (.undoing depth.silent_drop (outsideFrames_addFramebuffers depth _)
    depth.outsideFrames_drop) fun _ ↦ ?_
  exact .change

theorem outsideFrames_addRenderFinished (n : ℕ) :
    RunOn.IsOutsideFrames uploads (addRenderFinished n) := by
  induction n with
  | zero => exact .pure
  | succ n ih =>
    refine .bind (.lift (.setUp fun _ ↦ Driver.adds_create rfl fun _ ↦ trivial)) fun _ ↦ ?_
    exact .bind .change fun _ ↦ ih

theorem outsideFrames_addImageAvailable (n : ℕ) :
    RunOn.IsOutsideFrames uploads (addImageAvailable n) := by
  induction n with
  | zero => exact .pure
  | succ n ih =>
    refine .bind (.lift (.setUp fun _ ↦ Driver.adds_create rfl fun _ ↦ trivial)) fun _ ↦ ?_
    exact .bind .change fun _ ↦ ih

theorem outsideFrames_build {size : Extent} : RunOn.IsOutsideFrames uploads (build ctx size) := by
  refine .get_bind fun _ ↦ ?_
  refine .bind (.lift (.setUp fun _ ↦ Driver.adds_query)) fun _ ↦ ?_
  refine .bind (.lift (.driving fun _ ↦ Driver.adds_enumerate)) fun _ ↦ ?_
  refine .bind .orTrap fun _ ↦ ?_
  refine .ite ?_ ?_
  · exact .bind .note fun _ ↦ .change
  · refine .bind outsideFrames_replace fun _ ↦ ?_
    refine .part_bind fun _ ↦ ?_
    refine .bind (outsideFrames_addViews _) fun _ ↦ ?_
    exact .bind outsideFrames_addDepth fun _ ↦ .part_bind fun _ ↦ outsideFrames_addRenderFinished _

theorem outsideFrames_pickFormat : IsOutsideFrames uploads pickFormat := by
  refine .get_bind fun _ ↦ .bind (.setUp fun _ ↦ Driver.adds_enumerate) fun _ ↦ ?_
  dsimp only
  split
  · exact .pure
  · exact .giveUp

theorem outsideFrames_create {surface : Object .surface} {size : Extent} {vsync : Bool}
    {frames : ℕ} :
    IsOutsideFrames uploads (create ctx surface size vsync frames) := by
  refine .bind outsideFrames_pickFormat fun _ ↦ ?_
  refine .bind outsideFrames_createRenderPass fun _ ↦ ?_
  refine .bind .share fun _ ↦ ?_
  exact .construct (.bind (outsideFrames_addImageAvailable _) fun _ ↦ outsideFrames_build)
    (fun s ↦ s.silent_drop ctx) fun s ↦ s.outsideFrames_drop

theorem outsideFrames_rebuild {size : Extent} :
    RunOn.IsOutsideFrames uploads (rebuild ctx size) := by
  refine .bind (.lift (.work fun _ ↦ Driver.adds_perform rfl trivial)) fun _ ↦ ?_
  refine .part_bind fun s ↦ ?_
  refine .bind (.lift s.outsideFrames_releaseImages) fun _ ↦ ?_
  refine .bind .change fun _ ↦ ?_
  refine .bind outsideFrames_build fun _ ↦ ?_
  exact .bind .change fun _ ↦ .part_bind fun _ ↦ .note

theorem outsideFrames_acquire {frame : ℕ} : RunOn.IsOutsideFrames uploads (acquire frame) := by
  refine .part_bind fun _ ↦ ?_
  refine .bind .orTrap fun _ ↦ ?_
  refine .bind (.lift (.driving fun _ ↦ Driver.adds_acquire)) fun r ↦ ?_
  rcases r with code | ⟨index, code⟩
  · exact .ite (.bind .change fun _ ↦ .pure) .refuse
  · exact .ite (.bind .change fun _ ↦ .ite .pure .refuse) (.ite .pure .refuse)

theorem outsideFrames_present {index : ℕ} : RunOn.IsOutsideFrames uploads (present ctx index) := by
  refine .part_bind fun _ ↦ ?_
  refine .bind .orTrap fun _ ↦ ?_
  refine .bind (.lift (.driving fun _ ↦ Driver.adds_present)) fun _ ↦ ?_
  exact .ite .change (.ite .refuse .pure)

end Swapchain

end RenderTargets.Vulkan
