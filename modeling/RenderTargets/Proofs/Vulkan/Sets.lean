import RenderTargets.Proofs.Vulkan.Resources
/-!
# Resources and descriptor sets

Descriptor sets are in nobody's estate: only frames make them, and they end with their pool or when
it is reset. So an estate says all of what a resource brings and takes away only because **making
and releasing resources spares the descriptor sets**, whatever fails on the way.

`SameSets past` says of a host that the sets alive are those that were alive after `past`. Every
call with `Call.SparesSets` keeps it, and the rest is one short lemma for each resource made or
given up.
-/

namespace RenderTargets.Vulkan

open StepWith Run

/-- No descriptor set ends with an object of the kind. -/
def ObjectKind.SparesSets : ObjectKind → Prop
  | .descriptorSet | .descriptorPool => False
  | _ => True

/-- The call neither makes a descriptor set nor ends one. -/
def Call.SparesSets : Call → Prop
  | allocateDescriptorSet .. | resetDescriptorPool _ => False
  | destroy o => o.kind.SparesSets
  | _ => True

/-- The descriptor sets alive are those that were alive after `past`. -/
def SameSets (past : List Call) (h : Host) : Prop :=
  ∀ x, x.object.kind = .descriptorSet → (Alive h.driver.calls x ↔ Alive past x)

variable {past : List Call} {c : Call} {x : Holding} {ctx : Context} {kind : ObjectKind}
  {name : CallName} {action : String}

theorem Call.SparesSets.alive_iff (hc : c.SparesSets) (hx : x.object.kind = .descriptorSet) :
    Alive (c :: past) x ↔ Alive past x := by
  have hmade : c.made? ≠ some x := by
    rintro hm
    cases c <;> simp only [made?, Option.some.injEq, reduceCtorEq] at hm <;> subst hm <;>
      first | exact hc | cases hx
  refine ⟨fun h ↦ (h.resolve_left hmade).1, fun h ↦ .inr ⟨h, ?_⟩⟩
  obtain ⟨d, -, hd⟩ := h.exists_made
  obtain ⟨pool, hhome, hpool⟩ := Call.pool_of_set hd hx
  rintro (he | ⟨_, hhome', he⟩)
  · cases c <;> simp only [ended?, Option.some.injEq, reduceCtorEq] at he
    · have hkind : (ObjectKind.descriptorSet).SparesSets := hx ▸ he ▸ hc
      exact hkind
    all_goals
      rw [← he] at hx
      cases hx
  · obtain rfl := Option.some.inj (hhome.symm.trans hhome')
    cases c <;> simp only [emptied?, Option.some.injEq, reduceCtorEq] at he
    · have hkind : (ObjectKind.descriptorPool).SparesSets := hpool ▸ he ▸ hc
      exact hkind
    · exact hc

namespace SameSets

variable {h : Host} {d : Driver}

theorem push (hh : SameSets past h) (hc : c.SparesSets) :
    SameSets past { h with driver := h.driver.push c } :=
  fun x hx ↦ (hc.alive_iff hx).trans (hh x hx)

/-- Nothing was called. -/
theorem congr (hh : SameSets past h) (hd : h.driver.Continues d) :
    SameSets past { h with driver := d } :=
  fun x hx ↦ hd.calls ▸ hh x hx

end SameSets

/-! ### Calls -/

theorem spares_push (hc : c.SparesSets) : Keeps (SameSets past) (changeDriver (·.push c)) :=
  meets_changeDriver fun _ hh ↦ hh.push hc

theorem spares_perform (hc : c.SparesSets) :
    Keeps (SameSets past) (work action (Driver.perform name c)) := by
  refine meets_work (fun h _ d hh hd ↦ ?_) (fun h code d hh hd ↦ ?_) fun _ _ hh ↦ hh
  · rw [Driver.perform_ok hd]
    exact (hh.congr Driver.continues_tally).push hc
  · rw [Driver.perform_error hd]
    exact (hh.congr Driver.continues_tally).push trivial

theorem spares_make {f : Object kind → Call} (hf : ∀ o, (f o).SparesSets) :
    Keeps (SameSets past) (work action (Driver.create name f)) := by
  refine meets_work (fun h o d hh hd ↦ ?_) (fun h code d hh hd ↦ ?_) fun _ _ hh ↦ hh
  · rw [(Driver.create_ok hd).2]
    exact (hh.congr (Driver.continues_tally.trans Driver.continues_fresh)).push (hf o)
  · rw [Driver.create_error hd]
    exact (hh.congr Driver.continues_tally).push trivial

theorem spares_destroy {o : Object kind} (hk : kind.SparesSets) :
    Keeps (SameSets past) (Run.destroy o) := by
  refine meets_changeDriver fun h hh ↦ ?_
  rw [Driver.destroy]
  split
  · exact hh
  · exact (hh.congr Driver.continues_forget).push hk

theorem spares_share : Keeps (SameSets past) share := Meets.update fun _ hh ↦ hh

theorem spares_unshare : Keeps (SameSets past) unshare := Meets.update fun _ hh ↦ hh

theorem spares_note {severity : Log.Severity} {origin message : String} :
    Keeps (SameSets past) (Log.note severity origin message : Run Unit) :=
  Meets.note fun _ _ hh ↦ hh

/-- What was begun is given up together with its hold on the context. -/
theorem spares_discard {o : Object kind} (hk : kind.SparesSets) :
    Keeps (SameSets past) (do Run.destroy o; unshare) :=
  .bind (spares_destroy hk) fun _ ↦ spares_unshare

/-! ### Memory, images and buffers -/

theorem spares_allocate {label : String} {question : CallName} {size : ℕ} :
    Keeps (SameSets past) (allocate label question size) := by
  refine .bind (Q := fun _ ↦ SameSets past)
    (meets_driving fun _ hh ↦ hh.congr Driver.continues_query) fun answer ↦ ?_
  cases answer with
  | error code =>
    exact .get_bind fun _ ↦ .bind spares_note fun _ ↦ .fail fun _ hh ↦ hh
  | ok =>
    refine .bind (Q := fun _ ↦ SameSets past)
      (meets_driving fun _ hh ↦ hh.congr Driver.continues_fresh) fun memory ↦ ?_
    exact .bind (spares_push trivial) fun _ ↦ .pure fun _ hh ↦ hh

theorem spares_free {m : Object .memory} : Keeps (SameSets past) (free m) := spares_push trivial

namespace Image

theorem spares_create {label : String} {info : ImageInfo} {aspect : Flags} :
    Keeps (SameSets past) (create label info aspect) := by
  have hcomplete (image : Object .image) (memory : Object .memory) :
      Keeps (SameSets past) (complete label image info aspect memory) :=
    .bind (spares_perform trivial) fun _ ↦ .bind (spares_make fun _ ↦ trivial) fun _ ↦
      .pure fun _ hh ↦ hh
  refine .bind (spares_make fun _ ↦ trivial) fun image ↦ ?_
  refine .bind spares_share fun _ ↦ ?_
  refine Silent.undoing (.bind .destroy fun _ ↦ .unshare) ?_ fun _ ↦ spares_discard trivial
  refine .bind spares_allocate fun memory ↦ ?_
  exact silent_free.undoing (hcomplete image memory) fun _ ↦ spares_free

theorem spares_drop (i : Image) : Keeps (SameSets past) i.drop :=
  .bind (spares_destroy trivial) fun _ ↦ .bind spares_free fun _ ↦ spares_discard trivial

theorem spares_dropOption (o : Option Image) : Keeps (SameSets past) (dropOption o) := by
  cases o with
  | some i => exact i.spares_drop
  | none => exact .pure fun _ hh ↦ hh

end Image

namespace Buffer

theorem spares_bind {o : Object .buffer} {size : ℕ} :
    Keeps (SameSets past) (work action (Driver.bindBuffer o size)) := by
  have hbind (h : Host) (hh : SameSets past h) :
      SameSets past { h with driver := (Driver.bindBuffer o size h.driver).2 } := by
    rw [Driver.bindBuffer]
    rcases hd : h.driver.perform .bindBufferMemory (.bindBufferMemory o) with ⟨code | _, d⟩
    · rw [Driver.perform_error hd]
      exact (hh.congr Driver.continues_tally).push trivial
    · rw [Driver.perform_ok hd]
      exact (hh.congr Driver.continues_tally).push (c := .bindBufferMemory o) trivial
  refine meets_work (fun h _ d hh hd ↦ ?_) (fun h code d hh hd ↦ ?_) fun _ _ hh ↦ hh
  all_goals simpa only [hd] using hbind h hh

theorem spares_create {label : String} {usage : Flags} {bytes : List UInt8} :
    Keeps (SameSets past) (create label usage bytes) := by
  have hcomplete (buffer : Object .buffer) (memory : Object .memory) :
      Keeps (SameSets past) (complete label buffer (max bytes.length 1) bytes memory) := by
    refine .bind spares_bind fun _ ↦ ?_
    refine .bind (Q := fun _ ↦ SameSets past) (meets_changeDriver fun _ hh ↦ hh) fun _ ↦ ?_
    exact .pure fun _ hh ↦ hh
  refine .bind (spares_make fun _ ↦ trivial) fun buffer ↦ ?_
  refine .bind spares_share fun _ ↦ ?_
  refine Silent.undoing (.bind .destroy fun _ ↦ .unshare) ?_ fun _ ↦ spares_discard trivial
  refine .bind spares_allocate fun memory ↦ ?_
  exact silent_free.undoing (hcomplete buffer memory) fun _ ↦ spares_free

theorem spares_drop (u : Buffer) : Keeps (SameSets past) u.drop :=
  .bind spares_free fun _ ↦ spares_discard trivial

end Buffer

/-! ### Meshes and textures -/

namespace Mesh

theorem spares_create {d : MeshDesc} : Keeps (SameSets past) (create d) := by
  have hindices : Keeps (SameSets past) (createIndices d) := by
    rw [createIndices]
    split
    · exact .pure fun _ hh ↦ hh
    · exact .bind Buffer.spares_create fun _ ↦ .pure fun _ hh ↦ hh
  refine .bind Keeps.ofChecked fun _ ↦ ?_
  refine .bind Buffer.spares_create fun vertices ↦ ?_
  refine .bind (vertices.silent_drop.undoing hindices fun _ ↦ vertices.spares_drop) fun _ ↦ ?_
  exact .bind spares_note fun _ ↦ .pure fun _ hh ↦ hh

theorem spares_drop (m : Mesh) : Keeps (SameSets past) m.drop := by
  refine .bind m.vertices.spares_drop fun _ ↦ ?_
  split
  · exact Buffer.spares_drop _
  · exact .pure fun _ hh ↦ hh

end Mesh

/-- The command buffer of an upload is no matter of sets. -/
theorem spares_runAtOnce {r : Recorded} :
    Keeps (SameSets past) (runAtOnce ctx fun b ↦ Run.record b r) := by
  refine .bind (spares_make fun _ ↦ trivial) fun buffer ↦ ?_
  refine .bind (.attempt (R := fun _ ↦ SameSets past) ?_) fun _ ↦ ?_
  · refine .bind (spares_perform trivial) fun _ ↦ ?_
    refine .bind (spares_push trivial) fun _ ↦ ?_
    refine .bind (spares_perform trivial) fun _ ↦ ?_
    exact .bind (spares_perform trivial) fun _ ↦ spares_perform trivial
  · exact .bind (spares_push trivial) fun _ ↦ Keeps.ofChecked

namespace Texture

theorem spares_createImages {d : TextureDesc} {samples : Flags} :
    Keeps (SameSets past) (createImages ctx d samples) := by
  have hresolve : Keeps (SameSets past) (createResolve ctx d) :=
    .ite (fun _ ↦ .bind Image.spares_create fun _ ↦ .pure fun _ hh ↦ hh)
      fun _ ↦ .pure fun _ hh ↦ hh
  have hdepth : Keeps (SameSets past) (createDepth ctx d samples) := by
    rw [createDepth]
    split
    · exact .pure fun _ hh ↦ hh
    · exact .bind Image.spares_create fun _ ↦ .pure fun _ hh ↦ hh
  refine .bind Image.spares_create fun color ↦ ?_
  refine color.silent_drop.undoing (.bind hresolve fun resolve ↦ ?_) fun _ ↦ color.spares_drop
  exact .bind ((Image.silent_dropOption resolve).undoing hdepth fun _ ↦
    Image.spares_dropOption resolve) fun _ ↦ .pure fun _ hh ↦ hh

theorem spares_drop (t : Texture) : Keeps (SameSets past) t.drop := by
  refine .bind t.color.spares_drop fun _ ↦ ?_
  exact .bind (Image.spares_dropOption _) fun _ ↦ Image.spares_dropOption _

theorem spares_create {d : TextureDesc} : Keeps (SameSets past) (create ctx d) := by
  have hprepare (t : Texture) : Keeps (SameSets past) (t.prepareForSampling ctx) := by
    rw [prepareForSampling]
    split
    · exact .pure fun _ hh ↦ hh
    · exact spares_runAtOnce
  refine .bind Keeps.ofChecked fun _ ↦ ?_
  split
  · exact .refuse fun _ _ hh ↦ hh
  · refine .bind spares_createImages fun t ↦ ?_
    refine .bind (t.silent_drop.undoing (hprepare t) fun _ ↦ t.spares_drop) fun _ ↦ ?_
    exact .pure fun _ hh ↦ hh

end Texture

/-! ### Shaders, pipelines and passes -/

theorem ShaderModule.spares_create {label : String} {stage : ShaderStage} {d : ModuleDesc} :
    Keeps (SameSets past) (create ctx label stage d) := by
  have hread (words : List UInt32) :
      Keeps (SameSets past) (readInterface ctx words d.entryPoint) := by
    rw [readInterface]
    split
    · exact .pure fun _ hh ↦ hh
    · exact .refuse fun _ _ hh ↦ hh
    · exact .trap
  refine .bind Keeps.ofChecked fun words ↦ .bind (hread words) fun _ ↦ ?_
  refine .ite (fun _ ↦ .refuse_bind fun _ _ hh ↦ hh) fun _ ↦ ?_
  exact .bind (spares_make fun _ ↦ trivial) fun _ ↦ .pure fun _ hh ↦ hh

namespace Shader

theorem spares_create {d : ShaderDesc} : Keeps (SameSets past) (create ctx d) := by
  refine .bind Keeps.ofChecked fun _ ↦ ?_
  refine .bind ShaderModule.spares_create fun _ ↦ ?_
  refine .bind (.undoingOnError ShaderModule.spares_create fun _ ↦ spares_destroy trivial)
    fun _ ↦ ?_
  exact .bind spares_note fun _ ↦ .bind spares_share fun _ ↦ .pure fun _ hh ↦ hh

theorem spares_drop (s : Shader) : Keeps (SameSets past) s.drop :=
  .bind (spares_destroy trivial) fun _ ↦ spares_discard trivial

end Shader

theorem spares_createRenderPass {l : PassLayout} :
    Keeps (SameSets past) (createRenderPass l) :=
  spares_make fun _ ↦ trivial

namespace Pipeline

theorem spares_createWith {d : PipelineDesc} {s : Shader} {samples : Flags}
    {setLayout : Object .setLayout} :
    Keeps (SameSets past) (createWith ctx d s samples setLayout) := by
  have hbuild (layout : Object .pipelineLayout) :
      Keeps (SameSets past) (buildForStandIn ctx d s samples layout) := by
    refine .bind spares_createRenderPass fun _ ↦ ?_
    refine .bind (.attempt (R := fun _ ↦ SameSets past)
      (.orTrap_bind fun _ _ ↦ spares_make fun _ ↦ trivial)) fun _ ↦ ?_
    exact .bind (spares_destroy trivial) fun _ ↦ Keeps.ofChecked
  refine .bind (spares_make fun _ ↦ trivial) fun layout ↦ ?_
  refine .bind (Silent.destroy.undoing (hbuild layout) fun _ ↦ spares_destroy trivial) fun _ ↦ ?_
  exact .pure fun _ hh ↦ hh

theorem spares_create {d : PipelineDesc} {s : Shader} :
    Keeps (SameSets past) (create ctx d s) := by
  refine .bind Keeps.ofChecked fun _ ↦ ?_
  split
  · exact .refuse fun _ _ hh ↦ hh
  · refine .bind spares_share fun _ ↦ ?_
    refine .bind (Silent.unshare.undoing (spares_make fun _ ↦ trivial) fun _ ↦ spares_unshare)
      fun setLayout ↦ ?_
    have hdiscard : Silent (do Run.destroy setLayout; unshare) :=
      .bind .destroy fun _ ↦ .unshare
    refine .bind (hdiscard.undoing spares_createWith fun _ ↦ spares_discard trivial) fun _ ↦ ?_
    exact .bind spares_note fun _ ↦ .pure fun _ hh ↦ hh

theorem spares_drop (p : Pipeline) : Keeps (SameSets past) p.drop := by
  refine .bind (spares_destroy trivial) fun _ ↦ ?_
  exact .bind (spares_destroy trivial) fun _ ↦ spares_discard trivial

end Pipeline

namespace Pass

theorem spares_create {d : PassDesc} {textures : TextureMap} {limit : UInt32} :
    Keeps (SameSets past) (create ctx d textures limit) := by
  refine .bind Keeps.ofChecked fun _ ↦ ?_
  split
  · exact .refuse fun _ _ hh ↦ hh
  · refine .bind spares_createRenderPass fun _ ↦ ?_
    refine .bind (.undoingOnError (spares_make fun _ ↦ trivial) fun _ ↦ spares_destroy trivial)
      fun _ ↦ ?_
    exact .bind spares_share fun _ ↦ .pure fun _ hh ↦ hh

theorem spares_drop (p : Pass) : Keeps (SameSets past) p.drop :=
  .bind (spares_destroy trivial) fun _ ↦ spares_discard trivial

end Pass

end RenderTargets.Vulkan
