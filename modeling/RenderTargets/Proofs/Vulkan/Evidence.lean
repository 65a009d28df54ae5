import RenderTargets.Proofs.Device.Attachments
import RenderTargets.Proofs.Vulkan.Device.Moves
/-!
# What the trace is evidence of

A device keeps handles of what the driver made, and little of what it was made of. The calls tell:
the images of a texture and what they are for (`Texture.IsMade`), and that the one to sample was got
ready (`Texture.IsPrepared`); how long the buffers of a mesh are (`Mesh.IsMadeOf`); the words of a
shader (`ShaderModule.IsRead`); the shape of a pass that a pipeline was built for, and the shader
that it runs (`Pipeline.IsBuilt`, `Pipeline.Runs`); the parts that a pass was made of
(`Pass.IsFormed`); and the pass of the screen with its images (`Swapchain.IsFurnished`).

Each of these is shown once, where the resource is made.
-/

namespace RenderTargets.Vulkan

open StepWith Run

variable {k : Host} {ctx : Context} {calls calls' l l' : List Call}

/-! ### Textures -/

/-- An image is got ready by commands of its own, which are handed over at once. -/
theorem meets_recordAndWaitGains {b : Object .commandBuffer} {r : Recorded} :
    Meets (k.Gains [] []) (recordAndWait ctx b fun b ↦ record b r)
      (fun _ ↦ k.Gains [] [.waitQueue ctx.queue, .submit ctx.queue ⟨[], b, []⟩ .null,
        .endCommandBuffer b, .record b r, .beginCommandBuffer b]) fun _ _ ↦ True := by
  refine .bind meets_performGains.lax fun _ ↦ ?_
  refine .bind meets_recordGains fun _ ↦ ?_
  refine .bind meets_performGains.lax fun _ ↦ ?_
  exact .bind meets_performGains.lax fun _ ↦ meets_performGains.lax

theorem executes_runAtOnce {r : Recorded} :
    Meets (fun _ ↦ True) (runAtOnce ctx fun b ↦ record b r)
      (fun _ h ↦ r ∈ executed h.driver.calls) fun _ _ ↦ True := by
  refine .bind .any fun b ↦ ?_
  -- What was handed over is what the buffer holds since it was begun.
  have hwork : Meets (fun _ ↦ True) (recordAndWait ctx b fun b ↦ record b r)
      (fun _ h ↦ r ∈ executed h.driver.calls) fun _ _ ↦ True := by
    intro k _
    refine (meets_recordAndWaitGains k (.refl k)).mono (fun _ k' hk ↦ ?_) fun _ _ _ ↦ trivial
    rw [hk.calls]
    show r ∈ contents b (.record b r :: .beginCommandBuffer b :: k.driver.calls) ++ _
    rw [contents_record_self]
    exact List.mem_append_left _ List.mem_cons_self
  have hfree : Meets (fun h : Host ↦ r ∈ executed h.driver.calls)
      (changeDriver (·.push (.freeCommandBuffer ctx.uploadPool b)))
      (fun _ h ↦ r ∈ executed h.driver.calls) fun _ _ ↦ True :=
    meets_changeDriver fun _ h ↦ h
  refine .bind (Q := fun result h ↦ result = .ok () → r ∈ executed h.driver.calls)
    (.attempt (hwork.mono (fun _ h ↦ h) (fun _ _ h _ ↦ h) fun _ _ _ ↦ nofun)) fun result ↦ ?_
  cases result with
  | error e => exact .bind .any fun _ ↦ .ofChecked nofun fun _ _ _ _ ↦ trivial
  | ok =>
    exact .bind (hfree.pre fun _ h ↦ h rfl) fun _ ↦ .ofChecked (fun _ _ _ h ↦ h)
      fun _ _ _ _ ↦ trivial

namespace Texture

variable {d : TextureDesc} {t : Texture}

/-- The image to sample was got ready. -/
def IsPrepared (t : Texture) (calls : List Call) : Prop :=
  ∀ i, t.sampledImage? = some i → .prepareForSampling i.image ∈ executed calls

theorem IsPrepared.suffix (h : t.IsPrepared calls) (hl : calls <:+ calls') :
    t.IsPrepared calls' := by
  obtain ⟨later, rfl⟩ := hl
  exact fun i hi ↦ (executed_suffix later calls).subset (h i hi)

theorem prepares : Meets (fun _ ↦ True) (t.prepareForSampling ctx)
    (fun _ h ↦ t.IsPrepared h.driver.calls) fun _ _ ↦ True := by
  rw [prepareForSampling]
  split
  · next hnone => exact .pure fun _ _ i hi ↦ by cases hnone.symm.trans hi
  · next i hi =>
    refine executes_runAtOnce.post fun _ _ h j hj ↦ ?_
    obtain rfl := Option.some.inj (hi.symm.trans hj)
    exact h

theorem prepared_create :
    Meets (fun _ ↦ True) (create ctx d)
      (fun t h ↦ t.IsMade ctx h.driver.calls ∧ t.IsPrepared h.driver.calls) fun _ _ ↦ True := by
  refine .bind (Keeps.ofChecked).lax fun _ ↦ ?_
  split
  · exact .refuse fun _ _ _ ↦ trivial
  · next samples hsamples =>
    have hcounted : d.samples ∈ sampleCounts := mem_of_sampleFlag? hsamples
    obtain rfl := eq_of_sampleFlag? hsamples
    refine .bind (made_createImages hcounted) fun t ↦ ?_
    exact .bind (meets_undone
      (t.outsideFrames_prepareForSampling.beside t.lasts_isMade t.prepares)) fun _ ↦
      .pure fun _ hh ↦ hh

end Texture

/-! ### Meshes -/

/-- The buffer was made for some bytes. -/
def Buffer.Holds (u : Buffer) (usage : Flags) (bytes : List UInt8) (calls : List Call) : Prop :=
  .createBuffer u.buffer (max bytes.length 1) usage ∈ calls

theorem Buffer.holds_create {name : String} {usage : Flags} {bytes : List UInt8} :
    Meets (fun _ ↦ True) (create name usage bytes) (fun u h ↦ u.Holds usage bytes h.driver.calls)
      fun _ _ ↦ True := by
  refine .bind meets_called fun buffer ↦ ?_
  have hmade := lasts_mem (.createBuffer buffer (max bytes.length 1) usage)
  have hcomplete (memory : Object .memory) :
      Meets (fun h ↦ .createBuffer buffer (max bytes.length 1) usage ∈ h.driver.calls)
        (complete name buffer (max bytes.length 1) bytes memory)
        (fun u h ↦ u.Holds usage bytes h.driver.calls) fun _ _ ↦ True := by
    have hbind : IsOutsideFrames .null (Run.work s!"bind memory of buffer '{name}'"
        (Driver.bindBuffer buffer (max bytes.length 1))) := .work fun _ ↦ Driver.adds_bindBuffer
    refine hbind.lasts_bind hmade fun _ ↦ ?_
    exact .bind (Q := fun _ h ↦ .createBuffer buffer (max bytes.length 1) usage ∈ h.driver.calls)
      (meets_changeDriver fun _ h ↦ h) fun _ ↦ .pure fun _ h ↦ h
  refine .bind (Q := fun _ h ↦ .createBuffer buffer (max bytes.length 1) usage ∈ h.driver.calls)
    (.update fun _ h ↦ h) fun _ ↦ meets_undone ?_
  have hallocate : IsOutsideFrames .null (allocate name .bufferMemory (max bytes.length 1)) :=
    outsideFrames_allocate
  exact hallocate.lasts_bind hmade fun memory ↦ meets_undone (hcomplete memory)

namespace Mesh

/-- The mesh was made of a description: its groups are those that were checked, and its buffers were
made for the data. -/
structure IsMadeOf (m : Mesh) (d : MeshDesc) (calls : List Call) : Prop where
  /-- The description was checked. -/
  valid : d.validate = .ok ()
  /-- The groups are its own. -/
  groups : m.groups = d.groups
  /-- The buffer of the vertices. -/
  vertices : m.vertices.Holds usageVertices d.vertexData calls
  /-- How indices are stored, if there are any. -/
  type : m.indices.map (·.2) = indexTypeCode? d.indexType
  /-- The buffer of the indices. -/
  indices : ∀ u code, m.indices = some (u, code) → u.Holds usageIndices d.indexData calls

theorem lasts_isMadeOf (m : Mesh) (d : MeshDesc) : Lasts (m.IsMadeOf d) := fun _ _ hl h ↦
  ⟨h.valid, h.groups, hl h.vertices, h.type, fun u code hu ↦ hl (h.indices u code hu)⟩

theorem made_create {d : MeshDesc} :
    Meets (fun _ ↦ True) (create d) (fun m h ↦ m.IsMadeOf d h.driver.calls) fun _ _ ↦ True := by
  have hindices : Meets (fun _ ↦ True) (createIndices d)
      (fun o h ↦ o.map (·.2) = indexTypeCode? d.indexType ∧
        ∀ u code, o = some (u, code) → u.Holds usageIndices d.indexData h.driver.calls)
      fun _ _ ↦ True := by
    rw [createIndices]
    split
    · next hnone => exact .pure fun _ _ ↦ ⟨hnone.symm, by simp⟩
    · next code hcode =>
      refine .bind Buffer.holds_create fun u ↦ .pure fun _ h ↦ ⟨hcode.symm, fun v code' hv ↦ ?_⟩
      obtain ⟨rfl, rfl⟩ := Prod.mk.inj (Option.some.inj hv)
      exact h
  have hparts : Meets (fun _ ↦ True) (create d) (fun m h ↦
      m.vertices.Holds usageVertices d.vertexData h.driver.calls ∧
      m.indices.map (·.2) = indexTypeCode? d.indexType ∧
      ∀ u code, m.indices = some (u, code) → u.Holds usageIndices d.indexData h.driver.calls)
      fun _ _ ↦ True := by
    refine .bind (Keeps.ofChecked).lax fun _ ↦ .bind Buffer.holds_create fun vertices ↦ ?_
    have houtside : IsOutsideFrames .null (createIndices d) := outsideFrames_createIndices
    have hvertices := lasts_mem
      (.createBuffer vertices.buffer (max d.vertexData.length 1) usageVertices)
    refine .bind (meets_undone (houtside.beside hvertices hindices)) fun indices ↦ ?_
    exact .bind (Meets.note fun _ _ h ↦ h) fun _ ↦ .pure fun _ h ↦ h
  refine (answers_create.meets hparts).post ?_
  rintro m h ⟨⟨hvalid, hgroups⟩, hvertices, htype, hindices⟩
  exact ⟨hvalid, hgroups, hvertices, htype, hindices⟩

end Mesh

/-! ### Shaders -/

namespace ShaderModule

/-- The module was made of words in which reflection finds what its stage takes from outside. -/
def IsRead (m : ShaderModule) (reflect : Spirv.Reflection) (calls : List Call) : Prop :=
  ∃ words, .createShaderModule m.code words ∈ calls ∧
    Spirv.Interface.read reflect words m.entryPoint = .ok m.interface

theorem lasts_isRead (m : ShaderModule) (reflect : Spirv.Reflection) : Lasts (m.IsRead reflect) :=
  fun _ _ hl ⟨words, hmade, hread⟩ ↦ ⟨words, hl hmade, hread⟩

theorem read_create {shader : String} {stage : ShaderStage} {d : ModuleDesc} :
    Meets (fun _ ↦ True) (create ctx shader stage d)
      (fun m h ↦ m.IsRead ctx.reflect h.driver.calls) fun _ _ ↦ True := by
  refine .bind (Keeps.ofChecked).lax fun words ↦ ?_
  have hread : Meets (fun _ ↦ True) (readInterface ctx words d.entryPoint)
      (fun i _ ↦ Spirv.Interface.read ctx.reflect words d.entryPoint = .ok i ∧ True)
      fun _ _ ↦ True := by
    rw [readInterface]
    split
    · next i hi => exact .pure fun _ h ↦ ⟨hi, h⟩
    · exact .refuse fun _ _ _ ↦ trivial
    · exact .trap
  refine .bind hread fun i ↦ .assume fun hi ↦ ?_
  refine .ite (fun _ ↦ .refuse_bind fun _ _ _ ↦ trivial) fun _ ↦ ?_
  exact .bind meets_called fun code ↦ .pure fun _ h ↦ ⟨words, h, hi⟩

end ShaderModule

/-- What the second stage of a shader takes is what its code says. -/
theorem Shader.read_create {d : ShaderDesc} :
    Meets (fun _ ↦ True) (create ctx d) (fun s h ↦ s.fragment.IsRead ctx.reflect h.driver.calls)
      fun _ _ ↦ True := by
  refine .bind (Keeps.ofChecked).lax fun _ ↦ .bind .any fun vertex ↦ ?_
  refine .bind (.undoingOnError ShaderModule.read_create fun _ ↦ .any) fun fragment ↦ ?_
  refine .bind (Meets.note (Q := fun _ h ↦ fragment.IsRead ctx.reflect h.driver.calls)
    fun _ _ h ↦ h) fun _ ↦ ?_
  refine .bind (Q := fun _ h ↦ fragment.IsRead ctx.reflect h.driver.calls) (.update fun _ h ↦ h)
    fun _ ↦ ?_
  exact .pure fun _ h ↦ h

/-! ### Pipelines -/

namespace Pipeline

variable {p : Pipeline}

/-- The pipeline was built for a stand-in of the passes of its signature, and takes the images that
its bindings say. -/
structure IsBuilt (ctx : Context) (p : Pipeline) (calls : List Call) : Prop where
  /-- The pipeline, and the shape that it was built for. -/
  made : ∃ info, .createPipeline p.pipeline info ∈ calls ∧ info.layout = p.layout ∧
    .createRenderPass info.pass (standIn ctx p.signature p.signature.samples).attachmentSet ∈ calls
  /-- What it takes. -/
  layout : ∃ push, .createPipelineLayout p.layout p.setLayout push ∈ calls
  /-- The images among that. -/
  bindings : .createSetLayout p.setLayout p.bindings ∈ calls

/-- The pipeline runs a shader, and takes the images that its second stage does. -/
structure Runs (p : Pipeline) (s : Shader) (calls : List Call) : Prop where
  /-- The stages are those of the shader. -/
  stages : ∃ info, .createPipeline p.pipeline info ∈ calls ∧ info.stages = stagesOf s
  /-- The images. -/
  bindings : p.bindings = s.fragment.interface.sampledBindings

theorem lasts_runs (p : Pipeline) (s : Shader) : Lasts (p.Runs s) := fun _ _ hl h ↦ by
  obtain ⟨info, hinfo, hstages⟩ := h.stages
  exact ⟨⟨info, hl hinfo, hstages⟩, h.bindings⟩

theorem lasts_isBuilt (p : Pipeline) : Lasts (p.IsBuilt ctx) := fun _ _ hl h ↦ by
  obtain ⟨info, hinfo, hlayout, hpass⟩ := h.made
  obtain ⟨push, hpush⟩ := h.layout
  exact ⟨⟨info, hl hinfo, hlayout, hl hpass⟩, ⟨push, hl hpush⟩, hl h.bindings⟩

theorem built_buildForStandIn {d : PipelineDesc} {s : Shader} {samples : Flags}
    {layout : Object .pipelineLayout} :
    Meets (fun _ ↦ True) (buildForStandIn ctx d s samples layout) (fun o h ↦ ∃ info,
      .createPipeline o info ∈ h.driver.calls ∧ info.stages = stagesOf s ∧ info.layout = layout ∧
      .createRenderPass info.pass (standIn ctx d.signature samples).attachmentSet ∈ h.driver.calls)
      fun _ _ ↦ True := by
  refine .bind meets_called fun pass ↦ ?_
  have hpass := lasts_mem (.createRenderPass pass (standIn ctx d.signature samples).attachmentSet)
  have hbuild : Meets (fun _ ↦ True) (build d s samples layout pass) (fun o h ↦
      ∃ info, .createPipeline o info ∈ h.driver.calls ∧ info.stages = stagesOf s ∧
        info.layout = layout ∧ info.pass = pass)
      fun _ _ ↦ True :=
    .orTrap_bind fun _ _ ↦ meets_called.post fun _ _ h ↦ ⟨_, h, rfl, rfl, rfl⟩
  refine .bind (Q := fun result h ↦
    .createRenderPass pass (standIn ctx d.signature samples).attachmentSet ∈ h.driver.calls ∧
    ∀ o, result = .ok o → ∃ info, .createPipeline o info ∈ h.driver.calls ∧
      info.stages = stagesOf s ∧ info.layout = layout ∧ info.pass = pass) ?_ fun result ↦ ?_
  · have houtside : IsOutsideFrames .null (build d s samples layout pass) := outsideFrames_build
    refine .attempt (((houtside.keeps_of_lasts hpass).and hbuild).mono (fun _ h ↦ ⟨h, trivial⟩)
      (fun o _ h ↦ ⟨h.1, fun o' ho ↦ ?_⟩) fun _ _ h ↦ ⟨h.1, nofun⟩)
    obtain rfl := Except.ok.inj ho
    exact h.2
  -- The pass of the stand-in is destroyed either way, which takes nothing from the trace.
  cases result with
  | error e => exact .bind .any fun _ ↦ .ofChecked nofun fun _ _ _ _ ↦ trivial
  | ok o =>
    have hlasts : Lasts fun l ↦ ∃ info, .createPipeline o info ∈ l ∧ info.stages = stagesOf s ∧
        info.layout = layout ∧
        .createRenderPass info.pass (standIn ctx d.signature samples).attachmentSet ∈ l :=
      fun _ _ hl ⟨info, hinfo, hstages, hlayout, hmade⟩ ↦
        ⟨info, hl hinfo, hstages, hlayout, hl hmade⟩
    refine .bind (((IsOutsideFrames.destroy : IsOutsideFrames .null _).keeps_of_lasts
      hlasts).lax.pre ?_) fun _ ↦
      .ofChecked ?_ fun _ _ _ _ ↦ trivial
    · rintro h ⟨hmade, hresult⟩
      obtain ⟨info, hinfo, hstages, hlayout, rfl⟩ := hresult o rfl
      exact ⟨info, hinfo, hstages, hlayout, hmade⟩
    · intro o' ho h hh
      obtain rfl := Except.ok.inj ho
      exact hh

theorem built_createWith {d : PipelineDesc} {s : Shader} {setLayout : Object .setLayout} :
    Meets (fun h ↦ .createSetLayout setLayout s.fragment.interface.sampledBindings ∈ h.driver.calls)
      (createWith ctx d s d.signature.samples setLayout)
      (fun p h ↦ p.IsBuilt ctx h.driver.calls ∧ p.Runs s h.driver.calls) fun _ _ ↦ True := by
  have hset := lasts_mem (.createSetLayout setLayout s.fragment.interface.sampledBindings)
  have hlayout : IsOutsideFrames .null (Run.work s!"create pipeline layout of '{d.name}'"
      (Driver.create .createPipelineLayout (.createPipelineLayout · setLayout (pushRangeOf s)))) :=
    .work fun _ ↦ Driver.adds_create rfl fun _ ↦ trivial
  refine .bind (hlayout.beside hset meets_called) fun layout ↦ ?_
  have hboth := hset.and (lasts_mem (.createPipelineLayout layout setLayout (pushRangeOf s)))
  have hbuild : IsOutsideFrames .null (buildForStandIn ctx d s d.signature.samples layout) :=
    outsideFrames_buildForStandIn
  refine .bind (meets_undone (hbuild.beside hboth built_buildForStandIn)) fun pipeline ↦ .pure ?_
  rintro h ⟨⟨hset, hlayout⟩, info, hinfo, hstages, hfits, hpass⟩
  exact ⟨⟨⟨info, hinfo, hfits, hpass⟩, ⟨_, hlayout⟩, hset⟩, ⟨info, hinfo, hstages⟩, rfl⟩

theorem built_create {d : PipelineDesc} {s : Shader} :
    Meets (fun _ ↦ True) (create ctx d s)
      (fun p h ↦ p.IsBuilt ctx h.driver.calls ∧ p.Runs s h.driver.calls) fun _ _ ↦ True := by
  refine .bind (Keeps.ofChecked).lax fun _ ↦ ?_
  split
  · exact .refuse fun _ _ _ ↦ trivial
  · next samples hsamples =>
    obtain rfl := eq_of_sampleFlag? hsamples
    refine .bind .any fun _ ↦ .bind (meets_undone meets_called) fun setLayout ↦ ?_
    refine .bind (meets_undone built_createWith) fun p ↦ ?_
    refine .bind (Meets.note (Q := fun _ h ↦ p.IsBuilt ctx h.driver.calls ∧ p.Runs s h.driver.calls)
      fun _ _ h ↦ h) fun _ ↦ ?_
    exact .pure fun _ h ↦ h

end Pipeline

/-! ### Passes -/

namespace Pass

variable {p : Pass}

/-- The pass was made of parts that fit each other, and whose images were made for what they are
for. -/
structure IsFormedOf (ctx : Context) (d : PassDesc) (parts : Parts) (p : Pass) (calls : List Call) :
    Prop where
  /-- There are no more textures to render into than the device binds. -/
  valid : ∃ limit, d.validate limit = .ok ()
  /-- The parts fit each other. -/
  fit : ∃ m, partsOf d m = .ok parts
  /-- The pass is what they say. -/
  made : p.IsOf d parts
  /-- Its shape and its images were made for them. -/
  joined : p.IsJoined ctx d parts calls
  /-- The images were made for what they are for. -/
  images : ∀ t, t ∈ parts.colors ∨ parts.depth = some t → t.IsMade ctx calls

/-- The pass was made of some parts. -/
def IsFormed (ctx : Context) (p : Pass) (calls : List Call) : Prop :=
  ∃ d parts, p.IsFormedOf ctx d parts calls

theorem IsJoined.subset {d : PassDesc} {parts : Parts} (h : p.IsJoined ctx d parts calls)
    (hl : calls ⊆ calls') : p.IsJoined ctx d parts calls' :=
  ⟨hl h.renderPass, hl h.framebuffer⟩

theorem lasts_isFormed (p : Pass) : Lasts (p.IsFormed ctx) := fun _ _ hl ⟨d, parts, h⟩ ↦
  ⟨d, parts, h.valid, h.fit, h.made, h.joined.subset hl,
    fun t ht ↦ t.lasts_isMade hl (h.images t ht)⟩

/-- A pass that is made of textures with evidence is formed. -/
theorem formed_create {d : PassDesc} {m : TextureMap} {limit : UInt32} :
    Meets (fun h ↦ ∀ x t, m.get? x = some t → t.IsMade ctx h.driver.calls) (create ctx d m limit)
      (fun p h ↦ p.IsFormed ctx h.driver.calls) fun _ _ ↦ True := by
  have hmade : Lasts fun l ↦ ∀ x t, m.get? x = some t → t.IsMade ctx l :=
    fun _ _ hl h x t ht ↦ t.lasts_isMade hl (h x t ht)
  have houtside : IsOutsideFrames .null (create ctx d m limit) := outsideFrames_create
  refine (houtside.beside hmade (answers_create.meets joined_create)).post ?_
  rintro p h ⟨htextures, ⟨hvalid, -⟩, parts, hparts, hof, hjoined⟩
  have hfit := fit_of_partsOf hparts
  refine ⟨d, parts, ⟨limit, hvalid⟩, ⟨m, hparts⟩, hof, hjoined, fun t ht ↦ ?_⟩
  rcases ht with ht | ht
  · obtain ⟨x, -, hx⟩ := id_of_colorTextures hfit.colors t ht
    exact htextures x t hx
  · rcases depthTexture_eq_ok hfit.depth with ⟨-, hnone⟩ | ⟨x, u, -, hu, hx, -⟩
    · cases ht.symm.trans hnone
    · obtain rfl := Option.some.inj (ht.symm.trans hu)
      exact htextures x t hx

end Pass

end RenderTargets.Vulkan
