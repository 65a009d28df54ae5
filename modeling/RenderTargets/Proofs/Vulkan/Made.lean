import RenderTargets.Proofs.Vulkan.Resources
import RenderTargets.Vulkan.Device.Setup
/-!
# What is made of a description

A resource that was made is what its description says, and the description was valid. Nothing is
said here of the objects of the driver behind it; they are in the triples of `Resources`.

A device that was set up is put together of what the steps of that answered, and has nothing else
(`Device.IsSetUp`).
-/

namespace RenderTargets.Vulkan

open StepWith

variable {α β : Type}

namespace Run

/-- Whatever the host, what the step answers has `Q`. -/
def Answers (x : Run α) (Q : α → Prop) : Prop := ∀ s a t, x s = .ok a t → Q a

namespace Answers

variable {x : Run α} {f : α → Run β} {Q : α → Prop} {R : β → Prop}

theorem of_meets (h : Meets (fun _ ↦ True) x (fun a _ ↦ Q a) fun _ _ ↦ True) : Answers x Q :=
  fun _ _ _ hx ↦ h.ok trivial hx

theorem pure {a : α} (h : Q a) : Answers (Pure.pure a) Q := of_meets (.pure fun _ _ ↦ h)

theorem bind (hx : Answers x Q) (hf : ∀ a, Q a → Answers (f a) R) : Answers (x >>= f) R := by
  intro s b u h
  rcases hxs : x s with ⟨a, t⟩ | ⟨e, t⟩
  · rw [bind_ok hxs] at h
    exact hf a (hx s a t hxs) t b u h
  · rw [bind_error hxs] at h
    cases h

/-- Whatever the first step answers, the answer of the second has `R`. -/
theorem skip (hf : ∀ a, Answers (f a) R) : Answers (x >>= f) R :=
  bind (Q := fun _ ↦ True) (fun _ _ _ _ ↦ trivial) fun a _ ↦ hf a

theorem ite {y : Run α} {p : Prop} [Decidable p] (hx : p → Answers x Q) (hy : ¬p → Answers y Q) :
    Answers (if p then x else y) Q := by
  split
  · next hp => exact hx hp
  · next hp => exact hy hp

/-- Whatever two branches answer, the answer of what they share has `R`. -/
theorem skip_ite {y : Run α} {p : Prop} [Decidable p] (hf : ∀ a, Answers (f a) R) :
    Answers (if p then x >>= f else y >>= f) R :=
  ite (fun _ ↦ skip hf) fun _ ↦ skip hf

theorem undoing {undo : Run Unit} (hx : Answers x Q) : Answers (StepWith.undoing x undo) Q := by
  intro s a t h
  rw [StepWith.undoing] at h
  rcases hxs : x s with ⟨b, u⟩ | ⟨e, u⟩ <;> rw [hxs] at h
  · cases h
    exact hx s a t hxs
  · simp only at h
    split at h <;> cases h

theorem refuse {origin : String} {cause : BackendCause} :
    Answers (Log.refuse origin cause : Run α) Q :=
  of_meets (.refuse fun _ _ _ ↦ trivial)

/-- What is checked first is known of every answer. -/
theorem checked {ε : Type} {c : Checked ε Unit} {g : ε → EngineError} {y : Run β}
    (h : Answers y R) :
    Answers (do StepWith.ofChecked (c.mapError g); y) fun b ↦ c = .ok () ∧ R b := by
  rcases c with e | ⟨⟩
  · intro s b t hs
    cases hs
  · exact fun s b t hs ↦ ⟨rfl, h s b t hs⟩

theorem check {ε : Type} {c : Except ε Unit} {g : ε → EngineError} {y : Run β}
    (h : Answers y R) :
    Answers (do StepWith.ofChecked ((Checked.ofExcept c).mapError g); y)
      fun b ↦ c = .ok () ∧ R b := by
  intro s b t hs
  obtain ⟨hc, hb⟩ := checked (c := Checked.ofExcept c) h s b t hs
  rcases c with e | ⟨⟩
  · cases hc
  · exact ⟨rfl, hb⟩

/-- What is known of every answer holds beside a triple. -/
theorem meets {P : Host → Prop} {S : α → Host → Prop} {E : EngineError → Host → Prop}
    (h : Answers x Q) (hx : Meets P x S E) : Meets P x (fun a s ↦ Q a ∧ S a s) E := by
  intro s hs
  have hm := hx s hs
  rcases hxs : x s with ⟨a, t⟩ | ⟨e | _, t⟩ <;> rw [hxs] at hm
  · exact ⟨h s a t hxs, hm⟩
  · exact hm
  · trivial

end Answers

/-- On some host the step answers that. -/
def MayAnswer (x : Run α) (a : α) : Prop := ∃ s t, x s = .ok a t

theorem answers_mayAnswer {x : Run α} : Answers x x.MayAnswer := fun s _ t h ↦ ⟨s, t, h⟩

theorem MayAnswer.holds {x : Run α} {Q : α → Prop} {a : α} (ha : x.MayAnswer a)
    (h : Answers x Q) : Q a := by
  obtain ⟨s, t, hx⟩ := ha
  exact h s a t hx

end Run

open Run

/-! ### Textures -/

/-- The texture is what the description says. -/
structure Texture.IsOf (d : TextureDesc) (t : Texture) : Prop where
  /-- Its size. -/
  extent : t.extent = ⟨d.width, d.height⟩
  /-- Its color format. -/
  format : t.format = d.format
  /-- Samples per pixel. -/
  samples : t.samples = d.samples
  /-- The format of its depth buffer. -/
  depth : t.depthFormat? = d.depth

/-- No pass resolved a new texture. -/
theorem Texture.answers_create {ctx : Context} {d : TextureDesc} :
    Answers (create ctx d) fun t ↦ d.validate = .ok () ∧ t.IsOf d ∧ t.resolved = false := by
  have hdepth : ∀ samples, Answers (createDepth ctx d samples) fun o ↦ o.map (·.1) = d.depth := by
    intro samples
    rw [createDepth.eq_def]
    split
    · next hd => exact .pure hd.symm
    · next format hd => exact .skip fun _ ↦ .pure hd.symm
  have himages : ∀ samples, Answers (createImages ctx d samples) fun t ↦
      t.IsOf d ∧ t.resolved = false := fun samples ↦
    .skip fun _ ↦ .undoing <| .skip fun _ ↦ .bind (.undoing (hdepth samples)) fun _ hd ↦
      .pure ⟨⟨rfl, rfl, rfl, hd⟩, rfl⟩
  refine .check ?_
  split
  · exact .refuse
  · exact .bind (himages _) fun _ ht ↦ .skip fun _ ↦ .pure ht

/-! ### Meshes, shaders and pipelines -/

theorem Mesh.answers_create {d : MeshDesc} :
    Answers (create d) fun m ↦ d.validate = .ok () ∧ m.groups = d.groups :=
  .checked <| .skip fun _ ↦ .skip fun _ ↦ .skip fun _ ↦ .pure rfl

theorem Shader.answers_create {ctx : Context} {d : ShaderDesc} :
    Answers (create ctx d) fun s ↦ d.validate = .ok () ∧ s.name = d.name :=
  .check <| .skip fun _ ↦ .skip fun _ ↦ .skip fun _ ↦ .skip fun _ ↦ .pure rfl

theorem Pipeline.answers_create {ctx : Context} {d : PipelineDesc} {s : Shader} :
    Answers (create ctx d s) fun p ↦ d.validate = .ok () ∧ p.signature = d.signature := by
  refine .check ?_
  split
  · exact .refuse
  · refine .skip fun _ ↦ .skip fun _ ↦ .bind (.undoing ?_) fun _ hp ↦ .skip fun _ ↦ .pure hp
    exact .skip fun _ ↦ .skip fun _ ↦ .pure rfl

/-! ### Passes -/

/-- The pass is what the description and its parts say. -/
structure Pass.IsOf (d : PassDesc) (p : Parts) (pass : Pass) : Prop where
  /-- The textures rendered into. -/
  textures : pass.textures = d.textures
  /-- The textures are resolved when the pass ends. -/
  resolves : pass.resolves = p.resolves
  /-- The pipelines that can be used in it. -/
  signature : pass.signature = ⟨UInt32.ofNat d.textures.length, p.first.format,
    p.depth.bind (·.depthFormat?), p.first.samples⟩

theorem Pass.answers_create {ctx : Context} {d : PassDesc} {textures : TextureMap}
    {limit : UInt32} : Answers (create ctx d textures limit) fun pass ↦
      d.validate limit = .ok () ∧ ∃ p, partsOf d textures = .ok p ∧ pass.IsOf d p := by
  refine .check ?_
  split
  · exact .refuse
  · next p hp =>
    exact .skip fun _ ↦ .skip fun _ ↦ .skip fun _ ↦ .pure ⟨p, hp, rfl, rfl, rfl⟩

/-! ### Devices -/

/-- The device was put together of what the steps of setting it up answered. -/
structure Device.IsSetUp (d : Device) (size : Extent) (config : Config) : Prop where
  /-- A GPU was opened, and the device can do what that can, less what is disabled. -/
  gpu : ∃ choice, (openGpu choice).MayAnswer (d.context, d.framePool) ∧
    d.capabilities = choice.gpu.limits.capabilities config.disabled
  /-- There are as many slots as the configuration asks for, and one at least. -/
  slots : (FrameSlot.createMany d.framePool [] (max config.framesInFlight 1)).MayAnswer d.slots
  /-- The screen is for as many frames. -/
  screen : ∃ surface, (Swapchain.create d.context surface size config.vsync
    (max config.framesInFlight 1)).MayAnswer d.screen
  /-- Nothing was made with it yet. -/
  plain : d = {
    context := d.context
    connection := d.connection
    messenger := d.messenger
    capabilities := d.capabilities
    screen := d.screen
    framePool := d.framePool
    slots := d.slots
    sampler := d.sampler
    windowSize := size }

theorem Device.answers_create {w : Window} {size : Extent} {config : Config} {builtIn : Bool} :
    Answers (create w size config builtIn) fun d ↦ d.IsSetUp size config := by
  refine .skip fun _ ↦ .ite (fun _ ↦ .of_meets (meets_giveUp_bind fun _ _ _ ↦ trivial)) fun _ ↦ ?_
  refine .ite (fun _ ↦ .of_meets (.fail_bind fun _ _ ↦ trivial)) fun _ ↦ ?_
  refine .skip fun _ ↦ .skip fun _ ↦ .skip fun _ ↦ .skip fun _ ↦ .skip_ite fun _ ↦ ?_
  refine .skip fun surface ↦ .skip fun choice ↦ .bind answers_mayAnswer fun ⟨context, pool⟩ hgpu ↦
    .skip fun _ ↦ .bind answers_mayAnswer fun slots hslots ↦ ?_
  have hscreen : Answers (createScreen context surface size config.vsync
      (max config.framesInFlight 1)) fun r ↦ (Swapchain.create context surface size config.vsync
        (max config.framesInFlight 1)).MayAnswer r.1 :=
    .bind answers_mayAnswer fun _ hs ↦ .skip fun _ ↦ .pure hs
  exact .bind (.undoing hscreen) fun ⟨screen, sampler⟩ hscreen ↦ .skip fun _ ↦
    .pure ⟨⟨choice, hgpu, rfl⟩, hslots, ⟨surface, hscreen⟩, rfl⟩

end RenderTargets.Vulkan
