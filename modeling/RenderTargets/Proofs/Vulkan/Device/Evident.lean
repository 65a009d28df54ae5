import RenderTargets.Proofs.Vulkan.Device.Drawing
import RenderTargets.Proofs.Vulkan.Evidence
import RenderTargets.Proofs.Vulkan.Provenance
import RenderTargets.Proofs.Vulkan.Renewal
/-!
# What the trace says of a device

Whatever a device has at hand, the trace says how it was made: its textures, pipelines and passes,
and the screen. That is `Device.Evident`. A resource is evident from where it is made on, and no
move takes that back, so every device that is reached is evident (`Reached.evident`).

## What resources were made of

Of code and of bytes a device keeps nothing. The calls tell, as they do of images: the words that a
shader was made of, the shader that a pipeline runs, and how many bytes the buffers of a mesh were
made for. What is in those bytes no call says, so of a mesh it is kept which description it came of
(`Mesh.ComesOf`).

A live resource is **sourced** (`Device.Sourced`) from where it is made on, also when what it was
made of is released, so every device that is reached is sourced (`Reached.sourced`).
-/

namespace RenderTargets.Vulkan

open StepWith Run

/-- Whatever is done with the screen, it is built anew at most. -/
theorem Swapchain.Works.renews {ctx : Context} {size : Extent} {s t : Swapchain × Host}
    (h : Swapchain.Works ctx size s t) : s.1.Renews t.1 t.2.driver.calls := by
  have hkeeps {α : Type} {x : RunOn Swapchain α} (hx : Keeps s.1.Renewing x)
      (hrun : x.settle s = some t) : s.1.Renews t.1 t.2.driver.calls :=
    hx.settle (.refl s.1) hrun
  cases h with
  | rebuild run => exact hkeeps Swapchain.renews_rebuild run
  | acquire run => exact hkeeps Swapchain.renews_acquire run
  | present run => exact hkeeps Swapchain.renews_present run

namespace Device

variable {d d' : Device} {k k' : Host} {s t : Device × Host} {cs : List GraphicsDevice.Command}
  {calls calls' : List Call}

/-- All that the device has was made as the trace says. -/
structure Evident (d : Device) (calls : List Call) : Prop where
  /-- Textures, which were got ready. -/
  textures : ∀ {id t}, d.textures.get? id = some t → t.IsMade d.context calls ∧ t.IsPrepared calls
  /-- Pipelines. -/
  pipelines : ∀ {id p}, d.pipelines.get? id = some p → p.IsBuilt d.context calls
  /-- Passes. -/
  passes : ∀ {id p}, d.passes.get? id = some p → p.IsFormed d.context calls
  /-- The screen. -/
  screen : d.screen.IsFurnished d.context calls

/-- The devices have the same resources, and the same screen. -/
structure HasAlike (d d' : Device) : Prop where
  /-- The context. -/
  context : d'.context = d.context
  /-- Textures. -/
  textures : d'.textures = d.textures
  /-- Pipelines. -/
  pipelines : d'.pipelines = d.pipelines
  /-- Passes. -/
  passes : d'.passes = d.passes
  /-- The screen. -/
  screen : d'.screen.parts = d.screen.parts

namespace Evident

theorem later (h : d.Evident calls) (hl : calls <:+ calls') : d.Evident calls' where
  textures ht := (h.textures ht).imp (Texture.lasts_isMade _ hl.subset) (·.suffix hl)
  pipelines hp := Pipeline.lasts_isBuilt _ hl.subset (h.pipelines hp)
  passes hp := Pass.lasts_isFormed _ hl.subset (h.passes hp)
  screen := d.screen.lasts_isFurnished hl.subset h.screen

theorem congr (h : d.Evident calls) (hd : d.HasAlike d') : d'.Evident calls where
  textures := by
    rw [hd.textures, hd.context]
    exact h.textures
  pipelines := by
    rw [hd.pipelines, hd.context]
    exact h.pipelines
  passes := by
    rw [hd.passes, hd.context]
    exact h.passes
  screen := by
    rw [hd.context]
    exact h.screen.renew (List.Subset.refl _) ((Swapchain.Renews.refl d.screen).congr hd.screen)

end Evident

/-! ### Moves -/

/-- What is made is evident. -/
theorem Stores.evident (h : d.Stores k d' k') (hd : d.Evident k.driver.calls) :
    d'.Evident k'.driver.calls := by
  have hlater : d.Evident k'.driver.calls := hd.later h.grows.suffix
  cases h with
  | @texture t u id textures k' run stored =>
    refine ⟨fun {x v} hv ↦ ?_, hlater.pipelines, hlater.passes, hlater.screen⟩
    rcases Slot.Map.get?_of_get?_insert? stored hv with ⟨-, rfl⟩ | hold
    · exact Texture.prepared_create.ok trivial run
    · exact hlater.textures hold
  | mesh | shader => exact hlater.congr ⟨rfl, rfl, rfl, rfl, rfl⟩
  | @pipeline p s q id pipelines k' found run stored =>
    refine ⟨hlater.textures, fun {x v} hv ↦ ?_, hlater.passes, hlater.screen⟩
    rcases Slot.Map.get?_of_get?_insert? stored hv with ⟨-, rfl⟩ | hold
    · exact (Pipeline.built_create.ok trivial run).1
    · exact hlater.pipelines hold
  | @pass p q id passes k' run stored =>
    refine ⟨hlater.textures, hlater.pipelines, fun {x v} hv ↦ ?_, hlater.screen⟩
    rcases Slot.Map.get?_of_get?_insert? stored hv with ⟨-, rfl⟩ | hold
    · exact Pass.formed_create.ok (fun _ _ ht ↦ (hd.textures ht).1) run
    · exact hlater.passes hold

/-- What is left after a release was there before. -/
theorem Evident.remove {id : ResourceId} {drop : Run Unit} (h : d.Evident calls)
    (hr : d.remove? id = some (d', drop)) : d'.Evident calls := by
  cases id with
  | mesh | shader =>
    obtain ⟨⟨x, m⟩, hremove, he⟩ := Option.map_eq_some_iff.1 hr
    cases he
    exact h.congr ⟨rfl, rfl, rfl, rfl, rfl⟩
  | texture id =>
    obtain ⟨⟨x, m⟩, hremove, he⟩ := Option.map_eq_some_iff.1 hr
    cases he
    exact ⟨fun ht ↦ h.textures (Slot.Map.get?_of_remove hremove ht), h.pipelines, h.passes,
      h.screen⟩
  | pipeline id =>
    obtain ⟨⟨x, m⟩, hremove, he⟩ := Option.map_eq_some_iff.1 hr
    cases he
    exact ⟨h.textures, fun hp ↦ h.pipelines (Slot.Map.get?_of_remove hremove hp), h.passes,
      h.screen⟩
  | pass id =>
    obtain ⟨⟨x, m⟩, hremove, he⟩ := Option.map_eq_some_iff.1 hr
    cases he
    exact ⟨h.textures, h.pipelines, fun hp ↦ h.passes (Slot.Map.get?_of_remove hremove hp),
      h.screen⟩

/-- A pass that ends marks its textures, no more. -/
theorem Evident.afterPass (h : d.Evident calls) (a : ActivePass) :
    (d.afterPass a).Evident calls := by
  refine ⟨fun {x u} hu ↦ ?_, h.pipelines, h.passes, h.screen⟩
  rw [Device.afterPass] at hu
  dsimp only at hu
  split at hu
  · rw [get?_foldl_markResolved] at hu
    obtain ⟨t, ht, rfl⟩ := Option.map_eq_some_iff.1 hu
    obtain ⟨hmade, hprepared⟩ := h.textures ht
    exact ⟨hmade.mark _, hprepared⟩
  · exact h.textures hu

/-- **No move hides what is evident.** -/
theorem Move.evident (h : Move cs s t) (hs : s.1.Evident s.2.driver.calls) :
    t.1.Evident t.2.driver.calls := by
  have hlater : s.1.Evident t.2.driver.calls := hs.later h.onward.calls
  cases h with
  | outsideFrames => exact hlater
  | note marked =>
    refine hlater.congr ⟨rfl, rfl, rfl, rfl, ?_⟩
    rcases marked with rfl | rfl <;> rfl
  | make stores => exact stores.evident hs
  | release _ removed => exact hlater.remove removed
  | screen _ works =>
    exact ⟨hlater.textures, hlater.pipelines, hlater.passes,
      hlater.screen.renew (List.Subset.refl _) works.renews⟩
  | leave | leaveUntargeted => exact hlater.afterPass _
  | _ => exact hlater.congr ⟨rfl, rfl, rfl, rfl, rfl⟩

/-! ### Devices that are reached -/

theorem furnished_createScreen {ctx : Context} {surface : Object .surface} {size : Extent}
    {vsync : Bool} {frames : ℕ} :
    Meets (fun _ ↦ True) (createScreen ctx surface size vsync frames)
      (fun p h ↦ p.1.IsFurnished ctx h.driver.calls) fun _ _ ↦ True := by
  refine .bind Swapchain.furnished_create fun screen ↦ ?_
  have hsampler : IsOutsideFrames .null
      (setUp "create sampler" "create sampler" (Driver.create .createSampler .createSampler)) :=
    .setUp fun _ ↦ Driver.adds_create rfl fun _ ↦ trivial
  exact .bind (meets_undone (hsampler.keeps_of_lasts screen.lasts_isFurnished).lax) fun _ ↦
    .pure fun _ h ↦ h

/-- A new device has a screen, and nothing else. -/
theorem evident_create {w : Window} {size : Extent} {config : Config} {builtIn : Bool} :
    Meets (fun _ ↦ True) (create w size config builtIn) (fun d h ↦ d.Evident h.driver.calls)
      fun _ _ ↦ True := by
  refine .get_bind fun _ ↦ ?_
  refine .ite (fun _ ↦ meets_giveUp_bind fun _ _ _ ↦ trivial) fun _ ↦ ?_
  refine .ite (fun _ ↦ .fail_bind fun _ _ ↦ trivial) fun _ ↦ ?_
  refine .bind .any fun _ ↦ ?_
  refine .bind .any fun _ ↦ ?_
  refine .bind .any fun _ ↦ ?_
  refine .bind .any fun _ ↦ ?_
  refine .ite_bind .any fun _ ↦ ?_
  refine .bind .any fun _ ↦ ?_
  refine .bind .any fun choice ↦ ?_
  refine .bind .any fun ⟨context, framePool⟩ ↦ ?_
  refine .bind .any fun _ ↦ ?_
  refine .bind .any fun slots ↦ ?_
  refine .bind (meets_undone furnished_createScreen) fun ⟨screen, sampler⟩ ↦ ?_
  have hannounce : IsOutsideFrames .null
      (announce choice (choice.gpu.limits.capabilities config.disabled)) :=
    outsideFrames_announce
  refine hannounce.lasts_bind screen.lasts_isFurnished fun _ ↦ .pure fun _ h ↦ ?_
  exact ⟨fun ht ↦ (nomatch Slot.Map.get?_empty.symm.trans ht),
    fun hp ↦ (nomatch Slot.Map.get?_empty.symm.trans hp),
    fun hp ↦ (nomatch Slot.Map.get?_empty.symm.trans hp), h⟩

theorem IsNew.evident (h : IsNew s) : s.1.Evident s.2.driver.calls := by
  obtain ⟨w, size, config, builtIn, h, hfresh, hcreate⟩ := h
  exact evident_create.ok trivial hcreate

/-- **All that a device has was made as its trace says.** -/
theorem Reached.evident {l : List (GraphicsDevice.Command × Option ResourceId)}
    (h : Reached l t) : t.1.Evident t.2.driver.calls := by
  obtain ⟨s, cs, hnew, hmoves⟩ := Reached.moves h
  exact hmoves.keeps (I := fun p ↦ p.1.Evident p.2.driver.calls) Move.evident hnew.evident

end Device

/-! ### What resources were made of -/

/-- The mesh was made of the description before the last of the calls. -/
def Mesh.ComesOf (m : Mesh) (desc : MeshDesc) (calls : List Call) : Prop :=
  ∃ k k', Mesh.create desc k = .ok m k' ∧ k'.driver.calls <:+ calls

theorem Mesh.ComesOf.later {m : Mesh} {desc : MeshDesc} {calls calls' : List Call}
    (h : m.ComesOf desc calls) (hl : calls <:+ calls') : m.ComesOf desc calls' := by
  obtain ⟨k, k', hmade, hcalls⟩ := h
  exact ⟨k, k', hmade, hcalls.trans hl⟩

theorem Mesh.ComesOf.isMadeOf {m : Mesh} {desc : MeshDesc} {calls : List Call}
    (h : m.ComesOf desc calls) : m.IsMadeOf desc calls := by
  obtain ⟨k, k', hmade, hcalls⟩ := h
  exact m.lasts_isMadeOf desc hcalls.subset (Mesh.made_create.ok trivial hmade)

namespace Device

variable {d d' : Device} {k k' : Host} {s t : Device × Host} {cs : List GraphicsDevice.Command}
  {calls calls' : List Call}

/-- It is known what shaders, pipelines and meshes were made of. -/
structure Sourced (d : Device) (calls : List Call) : Prop where
  /-- The second stage of a shader was made of its code. -/
  shaders : ∀ {id s}, d.shaders.get? id = some s →
    s.fragment.IsRead d.context.reflect calls
  /-- A pipeline runs such a shader. -/
  pipelines : ∀ {id p}, d.pipelines.get? id = some p →
    ∃ s : Shader, s.fragment.IsRead d.context.reflect calls ∧ p.Runs s calls
  /-- A mesh was made of a description. -/
  meshes : ∀ {id m}, d.meshes.get? id = some m → ∃ desc, m.ComesOf desc calls

namespace Sourced

theorem later (h : d.Sourced calls) (hl : calls <:+ calls') : d.Sourced calls' where
  shaders hs := ShaderModule.lasts_isRead _ _ hl.subset (h.shaders hs)
  pipelines hp := by
    obtain ⟨s, hread, hruns⟩ := h.pipelines hp
    exact ⟨s, s.fragment.lasts_isRead _ hl.subset hread, Pipeline.lasts_runs _ s hl.subset hruns⟩
  meshes hm := (h.meshes hm).imp fun _ hcomes ↦ hcomes.later hl

/-- What is left after a release was there before. -/
theorem remove {id : ResourceId} {drop : Run Unit} (h : d.Sourced calls)
    (hr : d.remove? id = some (d', drop)) : d'.Sourced calls := by
  cases id with
  | texture | pass =>
    obtain ⟨⟨x, m⟩, -, he⟩ := Option.map_eq_some_iff.1 hr
    cases he
    exact ⟨h.shaders, h.pipelines, h.meshes⟩
  | shader id =>
    obtain ⟨⟨x, m⟩, hremove, he⟩ := Option.map_eq_some_iff.1 hr
    cases he
    exact ⟨fun hs ↦ h.shaders (Slot.Map.get?_of_remove hremove hs), h.pipelines, h.meshes⟩
  | pipeline id =>
    obtain ⟨⟨x, m⟩, hremove, he⟩ := Option.map_eq_some_iff.1 hr
    cases he
    exact ⟨h.shaders, fun hp ↦ h.pipelines (Slot.Map.get?_of_remove hremove hp), h.meshes⟩
  | mesh id =>
    obtain ⟨⟨x, m⟩, hremove, he⟩ := Option.map_eq_some_iff.1 hr
    cases he
    exact ⟨h.shaders, h.pipelines, fun hm ↦ h.meshes (Slot.Map.get?_of_remove hremove hm)⟩

end Sourced

/-- What is made is sourced. -/
theorem Stores.sourced (h : d.Stores k d' k') (hd : d.Sourced k.driver.calls) :
    d'.Sourced k'.driver.calls := by
  have hlater : d.Sourced k'.driver.calls := hd.later h.grows.suffix
  cases h with
  | texture | pass => exact ⟨hlater.shaders, hlater.pipelines, hlater.meshes⟩
  | shader run stored =>
    refine ⟨fun hs ↦ ?_, hlater.pipelines, hlater.meshes⟩
    rcases Slot.Map.get?_of_get?_insert? stored hs with ⟨-, rfl⟩ | hold
    · exact Shader.read_create.ok trivial run
    · exact hlater.shaders hold
  | pipeline found run stored =>
    refine ⟨hlater.shaders, fun hp ↦ ?_, hlater.meshes⟩
    rcases Slot.Map.get?_of_get?_insert? stored hp with ⟨-, rfl⟩ | hold
    · exact ⟨_, hlater.shaders found, (Pipeline.built_create.ok trivial run).2⟩
    · exact hlater.pipelines hold
  | mesh run stored =>
    refine ⟨hlater.shaders, hlater.pipelines, fun hm ↦ ?_⟩
    rcases Slot.Map.get?_of_get?_insert? stored hm with ⟨-, rfl⟩ | hold
    · exact ⟨_, _, _, run, List.suffix_refl _⟩
    · exact hlater.meshes hold

/-- **No move takes a source away.** -/
theorem Move.sourced (h : Move cs s t) (hs : s.1.Sourced s.2.driver.calls) :
    t.1.Sourced t.2.driver.calls := by
  have hlater : s.1.Sourced t.2.driver.calls := hs.later h.onward.calls
  cases h with
  | make stores => exact stores.sourced hs
  | release _ removed => exact hlater.remove removed
  | _ => exact ⟨hlater.shaders, hlater.pipelines, hlater.meshes⟩

/-- A new device has no such resource. -/
theorem IsNew.sourced (h : IsNew s) : s.1.Sourced s.2.driver.calls := by
  have hnone {kind : ResourceKind} {α : Type} (store : Outline → Slot.Map kind α)
      (hstore : store (.fresh s.1.capabilities s.1.screen.colorFormat) = .empty)
      (id : Slot.Handle kind) : (store s.1.outline).get? id = none := by
    rw [h.outline_eq, hstore]
    exact Slot.Map.get?_empty
  refine ⟨fun {id _} hs ↦ ?_, fun {id _} hp ↦ ?_, fun {id _} hm ↦ ?_⟩
  · cases (hnone (·.shaders) rfl id).symm.trans hs
  · cases (hnone (·.pipelines) rfl id).symm.trans hp
  · cases (hnone (·.meshes) rfl id).symm.trans hm

/-- **All that a device has was made of what its trace says.** -/
theorem Reached.sourced {l : List (GraphicsDevice.Command × Option ResourceId)}
    (h : Reached l t) : t.1.Sourced t.2.driver.calls := by
  obtain ⟨s, cs, hnew, hmoves⟩ := Reached.moves h
  exact hmoves.keeps (I := fun p ↦ p.1.Sourced p.2.driver.calls) Move.sourced hnew.sourced

end Device

end RenderTargets.Vulkan
