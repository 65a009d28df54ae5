import RenderTargets.Proofs.Slot.Lookup
import RenderTargets.Proofs.Vulkan.Held
import RenderTargets.Vulkan.Mesh
import RenderTargets.Vulkan.Pass
/-!
# Estates of resources

What each kind of resource has to end, and that making one adds its estate while giving it up takes
the estate away. When the making fails half-way, what was made by then is given up, so that **a
failure adds nothing**.
-/

namespace RenderTargets.Vulkan

open StepWith Run

variable {b : Backdrop} {r : Estate} {E : EngineError → Host → Prop}

theorem silent_free {m : Object .memory} : Silent (free m) := .changeDriver

/-! ### Images -/

namespace Image

/-- The image, its memory and its view, and the context. -/
def estate (i : Image) : Estate := i.view.sole + i.memory.sole + i.image.sole + .share

/-- The estate of an image, if there is one. -/
def estateOption (o : Option Image) : Estate := o.elim 0 estate

theorem covers_image (i : Image) : i.estate.Covers i.image.any := by simp [estate]

theorem covers_view (i : Image) : i.estate.Covers i.view.any := by simp [estate]

theorem silent_drop (i : Image) : Silent i.drop :=
  .bind .destroy fun _ ↦ .bind silent_free fun _ ↦ .bind .destroy fun _ ↦ .unshare

theorem silent_dropOption (o : Option Image) : Silent (dropOption o) := by
  cases o with
  | none => exact .pure
  | some i => exact i.silent_drop

theorem meets_drop (i : Image) : Meets (Held b (i.estate + r)) i.drop (fun _ ↦ Held b r) E := by
  simp only [estate, add_assoc]
  refine .bind (meets_destroy trivial) fun _ ↦ ?_
  exact .bind meets_free fun _ ↦ .bind (meets_destroy trivial) fun _ ↦ meets_unshare

theorem meets_dropOption (o : Option Image) :
    Meets (Held b (estateOption o + r)) (dropOption o) (fun _ ↦ Held b r) E := by
  cases o with
  | none => exact .pure fun _ hh ↦ hh.of_eq (zero_add r)
  | some i => exact i.meets_drop

theorem meets_complete {label : String} {image : Object .image} {info : ImageInfo} {aspect : Flags}
    {memory : Object .memory} :
    Meets (Held b (memory.sole + (.share + (image.sole + r))))
      (complete label image info aspect memory) (fun i ↦ Held b (i.estate + r))
      fun _ ↦ Held b (memory.sole + (.share + (image.sole + r))) := by
  refine .bind (keeps_perform ⟨rfl, rfl, rfl⟩ trivial (by simp [Call.uses])) fun _ ↦ ?_
  have hc : Makes .view (.createView · ⟨image.any, info.format, aspect⟩) none
      (memory.sole + (.share + (image.sole + r))) :=
    .of_uses (fun _ ↦ rfl) (fun _ ↦ trivial) (by simp [Call.uses])
  refine .bind (meets_make hc (by decide)) fun view ↦ .pure fun _ hh ↦ hh.of_eq ?_
  simp only [estate, Object.sole]
  abel

theorem meets_create {label : String} {info : ImageInfo} {aspect : Flags} :
    Meets (Held b r) (create label info aspect) (fun i ↦ Held b (i.estate + r))
      fun _ ↦ Held b r := by
  have hc : Makes .image (.createImage · info) none r :=
    .of_nil (fun _ ↦ rfl) (fun _ ↦ trivial) fun _ ↦ rfl
  refine .bind (meets_make hc (by decide)) fun image ↦ .bind meets_share fun _ ↦ ?_
  have hsilent : Silent (do Run.destroy image; Run.unshare) :=
    .bind .destroy fun _ ↦ .unshare
  have hrest : Meets (Held b (.share + (image.sole + r)))
      (do
        let memory ← allocate label .imageMemory imageSize
        StepWith.undoing (complete label image info aspect memory) (free memory))
      (fun i ↦ Held b (i.estate + r)) fun _ ↦ Held b (.share + (image.sole + r)) :=
    .bind meets_allocate fun memory ↦ silent_free.undoing meets_complete fun _ ↦ meets_free
  refine hsilent.undoing hrest fun _ ↦ Meets.pre ?_ fun _ hh ↦ hh.of_eq (add_left_comm _ _ _)
  exact .bind (meets_destroy trivial) fun _ ↦ meets_unshare

end Image

/-! ### Buffers and meshes -/

namespace Buffer

/-- The buffer and its memory, and the context. -/
def estate (u : Buffer) : Estate := u.memory.sole + u.buffer.sole + .share

theorem covers_buffer (u : Buffer) : u.estate.Covers u.buffer.any := by simp [estate]

theorem silent_drop (u : Buffer) : Silent u.drop :=
  .bind silent_free fun _ ↦ .bind .destroy fun _ ↦ .unshare

theorem meets_drop (u : Buffer) : Meets (Held b (u.estate + r)) u.drop (fun _ ↦ Held b r) E := by
  simp only [estate, add_assoc]
  exact .bind meets_free fun _ ↦ .bind (meets_destroy trivial) fun _ ↦ meets_unshare

/-- The memory behind a buffer is nothing that is said in the trace. -/
theorem held_bindBuffer {e : Estate} {o : Object .buffer} {size : ℕ} {h : Host} (hh : Held b e h)
    (ho : e.Covers o.any) :
    Held b e { h with driver := (Driver.bindBuffer o size h.driver).2 } := by
  have hp : Held b e { h with
      driver := (Driver.perform .bindBufferMemory (.bindBufferMemory o) h.driver).2 } :=
    hh.performs ⟨rfl, rfl, rfl⟩ trivial (by simpa [Call.uses] using ho)
  rw [Driver.bindBuffer]
  split
  · next hd =>
    rw [hd] at hp
    exact hp
  · exact hp

theorem meets_complete {label : String} {buffer : Object .buffer} {size : ℕ} {bytes : List UInt8}
    {memory : Object .memory} :
    Meets (Held b (memory.sole + (.share + (buffer.sole + r))))
      (complete label buffer size bytes memory) (fun u ↦ Held b (u.estate + r))
      fun _ ↦ Held b (memory.sole + (.share + (buffer.sole + r))) := by
  refine .bind (keeps_work fun _ hh ↦ held_bindBuffer hh (by simp)) fun _ ↦ ?_
  refine .bind (Q := fun _ ↦ Held b (memory.sole + (.share + (buffer.sole + r))))
    (meets_changeDriver fun _ hh ↦ hh.congr ⟨rfl, rfl, fun _ ↦ Nat.le_refl _⟩) fun _ ↦ ?_
  refine .pure fun _ hh ↦ hh.of_eq ?_
  simp only [estate]
  abel

theorem meets_create {label : String} {usage : Flags} {bytes : List UInt8} :
    Meets (Held b r) (create label usage bytes) (fun u ↦ Held b (u.estate + r))
      fun _ ↦ Held b r := by
  have hc : Makes .buffer (.createBuffer · (max bytes.length 1) usage) none r :=
    .of_nil (fun _ ↦ rfl) (fun _ ↦ trivial) fun _ ↦ rfl
  refine .bind (meets_make hc (by decide)) fun buffer ↦ .bind meets_share fun _ ↦ ?_
  have hsilent : Silent (do Run.destroy buffer; Run.unshare) :=
    .bind .destroy fun _ ↦ .unshare
  have hrest : Meets (Held b (.share + (buffer.sole + r)))
      (do
        let memory ← allocate label .bufferMemory (max bytes.length 1)
        StepWith.undoing (complete label buffer (max bytes.length 1) bytes memory) (free memory))
      (fun u ↦ Held b (u.estate + r)) fun _ ↦ Held b (.share + (buffer.sole + r)) :=
    .bind meets_allocate fun memory ↦ silent_free.undoing meets_complete fun _ ↦ meets_free
  refine hsilent.undoing hrest fun _ ↦ Meets.pre ?_ fun _ hh ↦ hh.of_eq (add_left_comm _ _ _)
  exact .bind (meets_destroy trivial) fun _ ↦ meets_unshare

end Buffer

namespace Mesh

/-- The buffer of the indices, if there is one. -/
def indexEstate (o : Option (Buffer × Code)) : Estate := o.elim 0 (·.1.estate)

/-- The buffers. -/
def estate (m : Mesh) : Estate := m.vertices.estate + indexEstate m.indices

theorem silent_drop (m : Mesh) : Silent m.drop := by
  refine .bind m.vertices.silent_drop fun _ ↦ ?_
  split
  · exact Buffer.silent_drop _
  · exact .pure

theorem meets_drop (m : Mesh) : Meets (Held b (m.estate + r)) m.drop (fun _ ↦ Held b r) E := by
  simp only [estate, add_assoc]
  refine .bind m.vertices.meets_drop fun _ ↦ ?_
  split
  · next hi =>
    rw [hi]
    exact Buffer.meets_drop _
  · next hi =>
    rw [hi]
    exact .pure fun _ hh ↦ hh.of_eq (zero_add r)

theorem meets_createIndices {d : MeshDesc} :
    Meets (Held b r) (createIndices d) (fun o ↦ Held b (indexEstate o + r)) fun _ ↦ Held b r := by
  rw [createIndices]
  split
  · exact .pure fun _ hh ↦ hh.of_eq (zero_add r).symm
  · exact .bind Buffer.meets_create fun u ↦ .pure fun _ hh ↦ hh

theorem meets_create {d : MeshDesc} :
    Meets (Held b r) (create d) (fun m ↦ Held b (m.estate + r)) fun _ ↦ Held b r := by
  refine .bind Keeps.ofChecked fun _ ↦ .bind Buffer.meets_create fun vertices ↦ ?_
  refine .bind (vertices.silent_drop.undoing meets_createIndices fun _ ↦ vertices.meets_drop)
    fun indices ↦ ?_
  refine .bind meets_note fun _ ↦ .pure fun _ hh ↦ hh.of_eq ?_
  simp only [estate]
  abel

theorem covers_vertices (m : Mesh) : m.estate.Covers m.vertices.buffer.any :=
  m.vertices.covers_buffer.add_right

theorem covers_indices {m : Mesh} {u : Buffer} {code : Code} (h : m.indices = some (u, code)) :
    m.estate.Covers u.buffer.any := by
  rw [estate, h]
  exact u.covers_buffer.add_left

end Mesh

/-! ### Textures -/

/-- Commands that run at once leave nothing behind. -/
theorem keeps_runAtOnce {ctx : Context} {commands : Object .commandBuffer → Run Unit}
    (hp : ⟨ctx.uploadPool.any, none⟩ ∈ r.1)
    (hc : ∀ o, Keeps (Held b (.one ⟨o.any, some ctx.uploadPool.any⟩ + r)) (commands o)) :
    Keeps (Held b r) (runAtOnce ctx commands) := by
  have hpool : r.Covers ctx.uploadPool.any := Estate.covers_of_mem hp
  have hm : Makes .commandBuffer (.allocateCommandBuffer · ctx.uploadPool)
      (some ctx.uploadPool.any) r := by
    refine ⟨fun _ ↦ rfl, fun _ ↦ trivial, fun _ ↦ by simpa [Call.uses] using hpool, ?_⟩
    rintro _ ⟨⟩
    exact ⟨_, hp, rfl⟩
  refine .bind (meets_make hm (by decide)) fun buffer ↦ ?_
  have hrecord : Keeps (Held b (.one ⟨buffer.any, some ctx.uploadPool.any⟩ + r))
      (recordAndWait ctx buffer commands) := by
    refine .bind (keeps_perform ⟨rfl, rfl, rfl⟩ trivial (by simp [Call.uses])) fun _ ↦ ?_
    refine .bind (hc buffer) fun _ ↦ ?_
    refine .bind (keeps_perform ⟨rfl, rfl, rfl⟩ trivial (by simp [Call.uses])) fun _ ↦ ?_
    refine .bind (keeps_perform ⟨rfl, rfl, rfl⟩ rfl ?_) fun _ ↦
      keeps_perform ⟨rfl, rfl, rfl⟩ trivial (List.forall_mem_nil _)
    simp only [Call.uses, List.map_nil, List.append_nil, List.mem_cons, List.not_mem_nil, or_false]
    rintro o (rfl | rfl)
    · exact .of_not_isOwned fun h ↦ h.1 rfl
    · simp
  refine .bind (Meets.attempt
    (R := fun _ ↦ Held b (Estate.one ⟨buffer.any, some ctx.uploadPool.any⟩ + r)) hrecord)
    fun result ↦ ?_
  refine .bind (Q := fun _ ↦ Held b r) (meets_changeDriver fun _ hh ↦ ?_) fun _ ↦ Keeps.ofChecked
  refine Books.push_ended hh trivial rfl rfl (fun _ _ _ _ hp ↦ by cases hp) ?_ ?_
  · simp [Call.uses, hpool]
  · simp [Holding.Needs, Object.any]

namespace Texture

/-- The images. -/
def estate (t : Texture) : Estate :=
  t.color.estate + Image.estateOption t.resolve + Image.estateOption (t.depth.map (·.2))

theorem silent_drop (t : Texture) : Silent t.drop := by
  refine .bind t.color.silent_drop fun _ ↦ ?_
  exact .bind (Image.silent_dropOption _) fun _ ↦ Image.silent_dropOption _

theorem meets_drop (t : Texture) : Meets (Held b (t.estate + r)) t.drop (fun _ ↦ Held b r) E := by
  simp only [estate, add_assoc]
  refine .bind t.color.meets_drop fun _ ↦ ?_
  exact .bind (Image.meets_dropOption _) fun _ ↦ Image.meets_dropOption _

/-- Images that can be sampled are images of the texture. -/
theorem covers_sampled {t : Texture} {i : Image} (h : t.sampledImage? = some i) {o : AnyObject}
    (ho : i.estate.Covers o) : t.estate.Covers o := by
  rw [sampledImage?] at h
  split at h
  · cases h
  · split at h
    · rw [estate, h]
      exact ho.add_left.add_right
    · cases h
      exact ho.add_right.add_right

theorem meets_createDepth {ctx : Context} {d : TextureDesc} {samples : Flags} :
    Meets (Held b r) (createDepth ctx d samples)
      (fun o ↦ Held b (Image.estateOption (o.map (·.2)) + r)) fun _ ↦ Held b r := by
  rw [createDepth]
  split
  · exact .pure fun _ hh ↦ hh.of_eq (zero_add r).symm
  · exact .bind Image.meets_create fun i ↦ .pure fun _ hh ↦ hh

theorem meets_createResolve {ctx : Context} {d : TextureDesc} :
    Meets (Held b r) (createResolve ctx d) (fun o ↦ Held b (Image.estateOption o + r))
      fun _ ↦ Held b r := by
  refine .ite (fun _ ↦ ?_) fun _ ↦ .pure fun _ hh ↦ hh.of_eq (zero_add r).symm
  exact .bind Image.meets_create fun i ↦ .pure fun _ hh ↦ hh

theorem meets_createImages {ctx : Context} {d : TextureDesc} {samples : Flags} :
    Meets (Held b r) (createImages ctx d samples) (fun t ↦ Held b (t.estate + r))
      fun _ ↦ Held b r := by
  refine .bind Image.meets_create fun color ↦ ?_
  refine color.silent_drop.undoing (.bind meets_createResolve fun resolve ↦ ?_)
    fun _ ↦ color.meets_drop
  refine .bind ((Image.silent_dropOption resolve).undoing meets_createDepth fun _ ↦
    Image.meets_dropOption resolve) fun depth ↦ .pure fun _ hh ↦ hh.of_eq ?_
  simp only [estate]
  abel

/-- The image that can be sampled is got ready with the command buffers of the upload pool. -/
theorem keeps_prepareForSampling {ctx : Context} {t : Texture}
    (hp : ⟨ctx.uploadPool.any, none⟩ ∈ r.1) :
    Keeps (Held b (t.estate + r)) (t.prepareForSampling ctx) := by
  rw [prepareForSampling]
  split
  · exact .pure fun _ hh ↦ hh
  · next i hi =>
    have hi := covers_sampled hi i.covers_image
    refine keeps_runAtOnce (Estate.mem_add.2 (.inr hp)) fun o ↦
      meets_push ⟨rfl, rfl, rfl⟩ trivial ?_
    simp [Call.uses, Recorded.uses, hi]

theorem meets_create {ctx : Context} {d : TextureDesc} (hp : ⟨ctx.uploadPool.any, none⟩ ∈ r.1) :
    Meets (Held b r) (create ctx d) (fun t ↦ Held b (t.estate + r)) fun _ ↦ Held b r := by
  refine .bind Keeps.ofChecked fun _ ↦ ?_
  split
  · exact meets_refuse
  · refine .bind meets_createImages fun t ↦ ?_
    exact .bind (t.silent_drop.undoing (keeps_prepareForSampling hp) fun _ ↦ t.meets_drop)
      fun _ ↦ .pure fun _ hh ↦ hh

end Texture

/-! ### Shaders -/

namespace Shader

/-- The code of both stages, and the context. -/
def estate (s : Shader) : Estate := s.vertex.code.sole + s.fragment.code.sole + .share

theorem silent_drop (s : Shader) : Silent s.drop :=
  .bind .destroy fun _ ↦ .bind .destroy fun _ ↦ .unshare

theorem meets_drop (s : Shader) : Meets (Held b (s.estate + r)) s.drop (fun _ ↦ Held b r) E := by
  simp only [estate, add_assoc]
  exact .bind (meets_destroy trivial) fun _ ↦ .bind (meets_destroy trivial) fun _ ↦ meets_unshare

theorem meets_createModule {ctx : Context} {label : String} {stage : ShaderStage}
    {d : ModuleDesc} : Meets (Held b r) (ShaderModule.create ctx label stage d)
      (fun m ↦ Held b (m.code.sole + r)) fun _ ↦ Held b r := by
  refine .bind Keeps.ofChecked fun words ↦ ?_
  have hread : Keeps (Held b r) (ShaderModule.readInterface ctx words d.entryPoint) := by
    rw [ShaderModule.readInterface]
    split
    · exact .pure fun _ hh ↦ hh
    · exact meets_refuse
    · exact .trap
  refine .bind hread fun interface ↦ ?_
  refine .ite (fun _ ↦ .refuse_bind fun _ _ hh ↦ hh) fun _ ↦ ?_
  have hc : Makes .shaderModule (.createShaderModule · words) none r :=
    .of_nil (fun _ ↦ rfl) (fun _ ↦ trivial) fun _ ↦ rfl
  exact .bind (meets_make hc (by decide)) fun code ↦ .pure fun _ hh ↦ hh

theorem meets_create {ctx : Context} {d : ShaderDesc} :
    Meets (Held b r) (create ctx d) (fun s ↦ Held b (s.estate + r)) fun _ ↦ Held b r := by
  refine .bind Keeps.ofChecked fun _ ↦ .bind meets_createModule fun vertex ↦ ?_
  refine .bind (.undoingOnError meets_createModule fun _ ↦ meets_destroy trivial) fun fragment ↦ ?_
  refine .bind meets_note fun _ ↦ ?_
  refine .bind meets_share fun _ ↦ .pure fun _ hh ↦ hh.of_eq ?_
  simp only [estate]
  abel

end Shader

/-! ### Pipelines -/

theorem meets_createRenderPass {l : PassLayout} :
    Meets (Held b r) (createRenderPass l) (fun o ↦ Held b (o.sole + r)) fun _ ↦ Held b r := by
  have hc : Makes .renderPass (.createRenderPass · l.attachmentSet) none r :=
    .of_nil (fun _ ↦ rfl) (fun _ ↦ trivial) fun _ ↦ rfl
  exact meets_make hc (by decide)

namespace Pipeline

/-- The pipeline with its layouts, and the context. -/
def estate (p : Pipeline) : Estate := p.pipeline.sole + p.layout.sole + p.setLayout.sole + .share

theorem silent_drop (p : Pipeline) : Silent p.drop :=
  .bind .destroy fun _ ↦ .bind .destroy fun _ ↦ .bind .destroy fun _ ↦ .unshare

theorem meets_drop (p : Pipeline) :
    Meets (Held b (p.estate + r)) p.drop (fun _ ↦ Held b r) E := by
  simp only [estate, add_assoc]
  refine .bind (meets_destroy trivial) fun _ ↦ ?_
  exact .bind (meets_destroy trivial) fun _ ↦ .bind (meets_destroy trivial) fun _ ↦ meets_unshare

section Create

variable {ctx : Context} {d : PipelineDesc} {s : Shader} {samples : Flags}

/-- The stand-in is gone however the building ends. -/
theorem meets_buildForStandIn {layout : Object .pipelineLayout}
    (hs : ∀ o, s.estate.Covers o → r.Covers o) (hl : r.Covers layout.any) :
    Meets (Held b r) (buildForStandIn ctx d s samples layout) (fun o ↦ Held b (o.sole + r))
      fun _ ↦ Held b r := by
  refine .bind meets_createRenderPass fun pass ↦ ?_
  have hv : r.Covers s.vertex.code.any := hs _ (by simp [Shader.estate])
  have hf : r.Covers s.fragment.code.any := hs _ (by simp [Shader.estate])
  have hbuild : Meets (Held b (pass.sole + r)) (build d s samples layout pass)
      (fun o ↦ Held b (o.sole + (pass.sole + r))) fun _ ↦ Held b (pass.sole + r) := by
    refine .bind (.orTrap (Q := fun _ ↦ Held b (pass.sole + r)) fun _ _ _ hh ↦ hh) fun vertices ↦ ?_
    have hc : Makes .pipeline
        (.createPipeline · (infoOf d s samples vertices layout pass)) none (pass.sole + r) :=
      .of_uses (fun _ ↦ rfl) (fun _ ↦ trivial) (by simp [Call.uses, infoOf, stagesOf, hl, hv, hf])
    exact meets_make hc (by decide)
  -- Whether it was built decides what there is beside the stand-in.
  refine .bind (Meets.attempt (R := fun result ↦
    Held b (pass.sole + (result.toOption.elim 0 Object.sole + r))) ?_) fun result ↦ ?_
  · refine hbuild.mono (fun _ hh ↦ hh) (fun o _ hh ↦ hh.of_eq (add_left_comm _ _ _))
      fun _ _ hh ↦ hh.of_eq ?_
    simp [Except.toOption]
  · refine .bind (meets_destroy trivial) fun _ ↦ ?_
    cases result with
    | ok o => exact .pure fun _ hh ↦ hh
    | error e => exact .fail fun _ hh ↦ hh.of_eq (zero_add r)

theorem meets_createWith {setLayout : Object .setLayout}
    (hs : ∀ o, s.estate.Covers o → r.Covers o) (hl : r.Covers setLayout.any) :
    Meets (Held b r) (createWith ctx d s samples setLayout)
      (fun p h ↦ p.setLayout = setLayout ∧ Held b (p.pipeline.sole + (p.layout.sole + r)) h)
      fun _ ↦ Held b r := by
  have hc : Makes .pipelineLayout (.createPipelineLayout · setLayout (pushRangeOf s))
      none r :=
    .of_uses (fun _ ↦ rfl) (fun _ ↦ trivial) (by simp [Call.uses, hl])
  refine .bind (meets_make hc (by decide)) fun layout ↦ ?_
  have hbuild : Meets (Held b (layout.sole + r)) (buildForStandIn ctx d s samples layout)
      (fun o ↦ Held b (o.sole + (layout.sole + r))) fun _ ↦ Held b (layout.sole + r) :=
    meets_buildForStandIn (fun o ho ↦ (hs o ho).add_left) (by simp)
  refine .bind (Silent.destroy.undoing hbuild fun _ ↦ meets_destroy trivial) fun pipeline ↦ ?_
  exact .pure fun _ hh ↦ ⟨rfl, hh⟩

theorem meets_create (hs : ∀ o, s.estate.Covers o → r.Covers o) :
    Meets (Held b r) (create ctx d s) (fun p ↦ Held b (p.estate + r)) fun _ ↦ Held b r := by
  refine .bind Keeps.ofChecked fun _ ↦ ?_
  split
  · exact meets_refuse
  · refine .bind meets_share fun _ ↦ ?_
    have hc : Makes .setLayout
        (.createSetLayout · s.fragment.interface.sampledBindings) none (.share + r) :=
      .of_nil (fun _ ↦ rfl) (fun _ ↦ trivial) fun _ ↦ rfl
    refine .bind (Silent.unshare.undoing (meets_make hc (by decide)) fun _ ↦ meets_unshare)
      fun setLayout ↦ ?_
    have hsilent : Silent (do Run.destroy setLayout; Run.unshare) :=
      .bind .destroy fun _ ↦ .unshare
    refine .bind (hsilent.undoing (meets_createWith (fun o ho ↦ (hs o ho).add_left.add_left)
      (by simp)) fun _ ↦ .bind (meets_destroy trivial) fun _ ↦ meets_unshare) fun p ↦ ?_
    refine .assume (p := p.setLayout = setLayout) ?_
    rintro rfl
    refine .bind meets_note fun _ ↦ .pure fun _ hh ↦ hh.of_eq ?_
    simp only [estate, Object.sole]
    abel

end Create

end Pipeline

/-! ### Passes -/

namespace Pass

/-- The shape and the images put together, and the context. -/
def estate (p : Pass) : Estate := p.framebuffer.sole + p.renderPass.sole + .share

theorem silent_drop (p : Pass) : Silent p.drop :=
  .bind .destroy fun _ ↦ .bind .destroy fun _ ↦ .unshare

theorem meets_drop (p : Pass) : Meets (Held b (p.estate + r)) p.drop (fun _ ↦ Held b r) E := by
  simp only [estate, add_assoc]
  exact .bind (meets_destroy trivial) fun _ ↦ .bind (meets_destroy trivial) fun _ ↦ meets_unshare

section Parts

variable {textures : TextureMap}

theorem mem_of_colorTextures {i : ℕ} {ids : List TextureId} {l : List Texture}
    (h : colorTextures textures i ids = .ok l) : ∀ t ∈ l, t ∈ textures.values := by
  induction ids generalizing i l with
  | nil =>
    cases h
    exact List.forall_mem_nil _
  | cons id ids ih =>
    rw [colorTextures] at h
    split at h
    · cases h
    · next t ht =>
      split at h
      · cases h
      · rcases hrest : colorTextures textures (i + 1) ids with e | rest <;> rw [hrest] at h <;>
          cases h
        exact List.forall_mem_cons.2 ⟨Slot.Map.mem_values_of_get? ht, ih hrest⟩

theorem mem_of_depthTexture {first t : Texture} {id : Option TextureId}
    (h : depthTexture textures first id = .ok (some t)) : t ∈ textures.values := by
  rw [depthTexture.eq_def] at h
  split at h
  · cases h
  · split at h
    · cases h
    · next hu =>
      split at h <;> cases h
      exact Slot.Map.mem_values_of_get? hu

/-- The parts fit a description and each other. -/
structure Parts.Fit (d : PassDesc) (textures : TextureMap) (p : Parts) : Prop where
  /-- The textures rendered into were found. -/
  colors : colorTextures textures 0 d.textures = .ok p.colors
  /-- The others are like the first. -/
  alike : ∃ rest, p.colors = p.first :: rest ∧ checkAlike p.first rest = .ok ()
  /-- The texture whose depth buffer is used was found. -/
  depth : depthTexture textures p.first d.depth = .ok p.depth
  /-- Only a pass that is to resolve resolves. -/
  store : p.resolves = true → d.store = .resolve
  /-- There are samples to resolve. -/
  multisampled : p.resolves = true → 1 < p.first.samples

theorem fit_of_partsOf {d : PassDesc} {p : Parts} (h : partsOf d textures = .ok p) :
    p.Fit d textures := by
  rw [partsOf] at h
  obtain ⟨colors, hc, h⟩ := exists_ok_of_bind h
  cases colors with
  | nil => cases h
  | cons first rest =>
    obtain ⟨⟨⟩, ha, h⟩ := exists_ok_of_bind h
    obtain ⟨depth, hd, h⟩ := exists_ok_of_bind h
    -- All ways to an answer end with the samples.
    simp only at h
    split at h
    · next hr =>
      obtain ⟨hstore, hsamples⟩ := Bool.and_eq_true_iff.1 hr
      split at h
      · cases h
      · split at h <;> cases h
        exact ⟨hc, ⟨rest, rfl, ha⟩, hd, fun _ ↦ eq_of_beq hstore,
          fun _ ↦ of_decide_eq_true hsamples⟩
    · next hr =>
      split at h <;> cases h
      exact ⟨hc, ⟨rest, rfl, ha⟩, hd, fun hr' ↦ (hr hr').elim, fun hr' ↦ (hr hr').elim⟩

/-- The parts of a pass are live textures. -/
theorem mem_of_partsOf {d : PassDesc} {p : Parts} (h : partsOf d textures = .ok p) :
    (∀ t ∈ p.colors, t ∈ textures.values) ∧ ∀ t, p.depth = some t → t ∈ textures.values :=
  have hfit := fit_of_partsOf h
  ⟨mem_of_colorTextures hfit.colors, fun _ ht ↦ mem_of_depthTexture (ht ▸ hfit.depth)⟩

/-- The images of a pass are images of live textures. -/
theorem covers_viewsOf {d : PassDesc} {p : Parts} (h : partsOf d textures = .ok p) :
    ∀ v ∈ viewsOf p, ∃ t ∈ textures.values, t.estate.Covers v.any := by
  obtain ⟨hcolors, hdepth⟩ := mem_of_partsOf h
  intro v hv
  rw [viewsOf, List.mem_append, List.mem_append] at hv
  rcases hv with (hv | hv) | hv
  · obtain ⟨t, ht, rfl⟩ := List.mem_map.1 hv
    exact ⟨t, hcolors t ht, t.color.covers_view.add_right.add_right⟩
  · split at hv
    · obtain ⟨t, ht, htv⟩ := List.mem_filterMap.1 hv
      obtain ⟨i, hi, rfl⟩ := Option.map_eq_some_iff.1 htv
      refine ⟨t, hcolors t ht, ?_⟩
      rw [Texture.estate, hi]
      exact i.covers_view.add_left.add_right
    · cases hv
  · obtain ⟨t, ht, htv⟩ := Option.bind_eq_some_iff.1 (Option.mem_toList.1 hv)
    obtain ⟨⟨f, i⟩, hi, rfl⟩ := Option.map_eq_some_iff.1 htv
    refine ⟨t, hdepth t ht, ?_⟩
    rw [Texture.estate, hi]
    exact i.covers_view.add_left

end Parts

theorem meets_createFramebuffer {pass : Object .renderPass} {views : List (Object .view)}
    {extent : Extent} (hp : r.Covers pass.any) (hv : ∀ v ∈ views, r.Covers v.any) :
    Meets (Held b r) (createFramebuffer pass views extent) (fun o ↦ Held b (o.sole + r))
      fun _ ↦ Held b r := by
  have hc : Makes .framebuffer (.createFramebuffer · ⟨pass, views, extent⟩) none r := by
    refine .of_uses (fun _ ↦ rfl) (fun _ ↦ trivial) fun _ ↦ ?_
    simpa [Call.uses, hp] using hv
  exact meets_make hc (by decide)

theorem meets_create {ctx : Context} {d : PassDesc} {textures : TextureMap} {limit : UInt32}
    (ht : ∀ t ∈ textures.values, ∀ o, t.estate.Covers o → r.Covers o) :
    Meets (Held b r) (create ctx d textures limit) (fun p ↦ Held b (p.estate + r))
      fun _ ↦ Held b r := by
  refine .bind Keeps.ofChecked fun _ ↦ ?_
  split
  · exact meets_refuse
  · next p hp =>
    refine .bind meets_createRenderPass fun pass ↦ ?_
    refine .bind (.undoingOnError (meets_createFramebuffer (by simp) fun v hv ↦ ?_) fun _ ↦
      meets_destroy trivial) fun framebuffer ↦ ?_
    · obtain ⟨t, htv, hv⟩ := covers_viewsOf hp v hv
      exact (ht t htv _ hv).add_left
    · refine .bind meets_share fun _ ↦ .pure fun _ hh ↦ hh.of_eq ?_
      simp only [estate]
      abel

end Pass

end RenderTargets.Vulkan
