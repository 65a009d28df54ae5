import RenderTargets.Proofs.Vulkan.Frames
import RenderTargets.Proofs.Vulkan.Screen
import RenderTargets.Vulkan.Device.Resources
/-!
# The estate of a device

A device is **sound** if its host is held for all that the device has, its fences are awaitable or
lost, and its screen is settled unless it is marked. Here the device makes and releases resources,
which leaves screen and frames alone.

## Surfaces without pixels

Two parameters say what is known of the surface. If it had pixels whenever the screen was built
anew, `always`, a screen without a mark is ready; otherwise it may be bare as well. And if the
surface has pixels for the window as it is, `now`, the screen can be built anew.
-/

namespace RenderTargets.Vulkan

open StepWith Run

/-! ### Stocks -/

section Stock

variable {κ α : Type} {tag : κ} {m m' : Slot.Map tag α} {h : Slot.Handle tag} {a : α}
  {g : α → Estate}

/-- The estates of all values of a store. -/
def stock (g : α → Estate) (m : Slot.Map tag α) : Estate := (m.values.map g).sum

theorem stock_insert? (hi : m.insert? a = some (h, m')) : stock g m' = g a + stock g m := by
  rw [stock, ((Slot.Map.values_insert? hi).map g).sum_eq, List.map_cons, List.sum_cons, stock]

theorem stock_remove (hr : m.remove h = some (a, m')) : stock g m = g a + stock g m' := by
  rw [stock, ((Slot.Map.values_remove hr).map g).sum_eq, List.map_cons, List.sum_cons, stock]

theorem covers_stock (ha : m.get? h = some a) {o : AnyObject} (ho : (g a).Covers o) :
    (stock g m).Covers o :=
  .of_sum (Slot.Map.mem_values_of_get? ha) ho

end Stock

/-- The screen is ready, or bare because the surface had no pixels. -/
def Swapchain.IsSettled (always : Prop) (s : Swapchain) : Prop :=
  s.IsReady ∨ s.IsBare ∧ ¬always

namespace Device

/-! ### What a device has -/

/-- All resources. -/
def resourceEstate (d : Device) : Estate :=
  stock Pass.estate d.passes + (stock Pipeline.estate d.pipelines + (stock Shader.estate d.shaders +
    (stock Mesh.estate d.meshes + stock Texture.estate d.textures)))

/-- All frame slots. -/
def slotEstate (d : Device) : Estate := (d.slots.map (FrameSlot.estate d.framePool)).sum

/-- What only the end of the device ends. -/
def fixedEstate (d : Device) : Estate :=
  d.sampler.sole + (d.framePool.sole + (d.context.uploadPool.sole +
    (Swapchain.soles d.messenger.toList + (d.context.device.sole + (d.connection.sole + .share)))))

/-- All but the screen. -/
def otherEstate (d : Device) : Estate := d.resourceEstate + (d.slotEstate + d.fixedEstate)

/-- All that the device has to end. -/
def estate (d : Device) : Estate := d.screen.estate + d.otherEstate

/-- The fences of the slots. -/
def fences (d : Device) : List (Object .fence) := d.slots.map (·.fence)

/-- What is known of fences and surface. -/
abbrev backdrop (now : Prop) (d : Device) : Backdrop :=
  fenced (fun o ↦ now → o.HasPixels d.windowSize) d.framePool d.fences

/-- What the screen and the frame of a device are like. -/
structure Shape (always : Prop) (d : Device) : Prop where
  /-- The screen can be used unless it is marked. -/
  screen : d.screen.needsRebuild = false → d.screen.IsSettled always
  /-- There is no image before one was asked for. -/
  asked : ∀ f, d.frame = some f → f.asked = false → f.image = none
  /-- The screen that an image came from is still there. -/
  image : ∀ f, d.frame = some f → f.image.isSome → d.screen.IsSettled always

theorem Shape.of_no_frame {always : Prop} {d : Device} (hf : d.frame = none)
    (hs : d.screen.needsRebuild = false → d.screen.IsSettled always) : d.Shape always where
  screen := hs
  asked f h := by
    rw [hf] at h
    cases h
  image f h := by
    rw [hf] at h
    cases h

/-- The invariant of a device on its host. -/
def Sound (always now : Prop) (s : Device × Host) : Prop :=
  s.1.Shape always ∧ Held (s.1.backdrop now) s.1.estate s.2

variable {always now : Prop} {d : Device} {o : AnyObject} {α : Type}

/-- The host is held for the device. -/
abbrev Owns (now : Prop) (d : Device) : Host → Prop := Held (d.backdrop now) d.estate

theorem sound_of_at {s : Device × Host} (hd : d.Shape always)
    (h : RunOn.At d (d.Owns now) s) : Sound always now s := by
  obtain ⟨t, k⟩ := s
  obtain ⟨rfl, hh⟩ := h
  exact ⟨hd, hh⟩

/-- What holds from each device that is sound holds from all of them. -/
theorem meets_sound {x : DeviceStep α} {Q : α → Device × Host → Prop}
    {E : EngineError → Device × Host → Prop}
    (h : ∀ d : Device, d.Shape always → Meets (RunOn.At d (d.Owns now)) x Q E) :
    Meets (Sound always now) x Q E := by
  rintro ⟨d, k⟩ ⟨hd, hh⟩
  exact h d hd (d, k) ⟨rfl, hh⟩

theorem keeps_sound {x : DeviceStep α}
    (h : ∀ d : Device, d.Shape always →
      Meets (RunOn.At d (d.Owns now)) x (fun _ ↦ Sound always now) fun _ ↦ Sound always now) :
    Keeps (Sound always now) x :=
  meets_sound h

/-! ### What is alive -/

theorem covers_other (h : d.otherEstate.Covers o) : d.estate.Covers o := h.add_left

theorem covers_resource (h : d.resourceEstate.Covers o) : d.estate.Covers o :=
  covers_other h.add_right

theorem covers_fixed (h : d.fixedEstate.Covers o) : d.estate.Covers o :=
  covers_other h.add_left.add_left

theorem covers_screen (h : d.screen.estate.Covers o) : d.estate.Covers o := h.add_right

theorem covers_device (d : Device) : d.otherEstate.Covers d.context.device.any := by
  simp [otherEstate, fixedEstate]

theorem covers_sampler (d : Device) : d.estate.Covers d.sampler.any :=
  covers_fixed (by simp [fixedEstate])

theorem mem_uploadPool (d : Device) : ⟨d.context.uploadPool.any, none⟩ ∈ d.estate.1 := by
  simp [estate, otherEstate, fixedEstate]

theorem covers_texture {id : TextureId} {t : Texture} (ht : d.textures.get? id = some t)
    (h : t.estate.Covers o) : d.estate.Covers o :=
  covers_resource (covers_stock ht h).add_left.add_left.add_left.add_left

theorem covers_mesh {id : MeshId} {m : Mesh} (hm : d.meshes.get? id = some m)
    (h : m.estate.Covers o) : d.estate.Covers o :=
  covers_resource (covers_stock hm h).add_right.add_left.add_left.add_left

theorem covers_shader {id : ShaderId} {s : Shader} (hs : d.shaders.get? id = some s)
    (h : s.estate.Covers o) : d.estate.Covers o :=
  covers_resource (covers_stock hs h).add_right.add_left.add_left

theorem covers_pipeline {id : PipelineId} {p : Pipeline} (hp : d.pipelines.get? id = some p)
    (h : p.estate.Covers o) : d.estate.Covers o :=
  covers_resource (covers_stock hp h).add_right.add_left

theorem covers_pass {id : PassId} {p : Pass} (hp : d.passes.get? id = some p)
    (h : p.estate.Covers o) : d.estate.Covers o :=
  covers_resource (covers_stock hp h).add_right

theorem covers_slot {f : FrameSlot} (hf : f ∈ d.slots) (h : (f.estate d.framePool).Covers o) :
    d.estate.Covers o :=
  covers_other (Estate.Covers.of_sum hf h).add_right.add_left

theorem mem_pool {f : FrameSlot} (hf : f ∈ d.slots) : ⟨f.pool.any, none⟩ ∈ d.estate.1 := by
  have hslot : ⟨f.pool.any, none⟩ ∈ d.slotEstate.1 :=
    Estate.mem_sum hf (by simp [FrameSlot.estate, FrameSlot.ownEstate])
  exact Estate.mem_add.2 (.inr (Estate.mem_add.2 (.inr (Estate.mem_add.2 (.inl hslot)))))

theorem mem_fences {f : FrameSlot} (hf : f ∈ d.slots) : f.fence ∈ d.fences :=
  List.mem_map.2 ⟨f, hf, rfl⟩

/-! ### Making resources -/

/-- What was made is put into the device. -/
theorem meets_store {f : Device → Device} {e : Estate} {a : α}
    {E : EngineError → Device × Host → Prop} (hd : (f d).Shape always)
    (hb : (f d).backdrop now = d.backdrop now) (he : e + d.estate = (f d).estate) :
    Meets (RunOn.At d (Held (d.backdrop now) (e + d.estate)))
      (do RunOn.change f; return a) (fun _ ↦ Sound always now) E := by
  refine RunOn.meets_change_bind (.pure fun s hp ↦ sound_of_at hd ⟨hp.1, ?_⟩)
  rw [Owns, hb, ← he]
  exact hp.2

theorem keeps_createTexture {t : TextureDesc} : Keeps (Sound always now) (createTexture t) := by
  refine keeps_sound fun d hd ↦ RunOn.meets_part_bind ?_
  refine .ite (fun _ ↦ .fail_bind fun _ hp ↦ sound_of_at hd hp) fun _ ↦ ?_
  refine RunOn.meets_lift_bind (Texture.meets_create d.mem_uploadPool)
    (fun _ _ hh ↦ ⟨hd, hh⟩) fun texture ↦ ?_
  refine .bind (Meets.note (Q := fun _ ↦ RunOn.At d (Held _ (texture.estate + d.estate)))
    fun _ _ hp ↦ hp) fun _ ↦ ?_
  refine .orTrap_bind fun ⟨id, textures⟩ hi ↦ ?_
  refine meets_store ⟨hd.screen, hd.asked, hd.image⟩ rfl ?_
  simp only [estate, otherEstate, resourceEstate, slotEstate, fixedEstate, stock_insert? hi]
  abel

theorem keeps_createMesh {m : MeshDesc} : Keeps (Sound always now) (createMesh m) := by
  refine keeps_sound fun d hd ↦ ?_
  refine RunOn.meets_lift_bind Mesh.meets_create (fun _ _ hh ↦ ⟨hd, hh⟩) fun mesh ↦ ?_
  refine RunOn.meets_part_bind (.orTrap_bind fun ⟨id, meshes⟩ hi ↦ ?_)
  refine meets_store ⟨hd.screen, hd.asked, hd.image⟩ rfl ?_
  simp only [estate, otherEstate, resourceEstate, slotEstate, fixedEstate, stock_insert? hi]
  abel

theorem keeps_createShader {s : ShaderDesc} : Keeps (Sound always now) (createShader s) := by
  refine keeps_sound fun d hd ↦ RunOn.meets_part_bind ?_
  refine RunOn.meets_lift_bind Shader.meets_create (fun _ _ hh ↦ ⟨hd, hh⟩) fun shader ↦ ?_
  refine .orTrap_bind fun ⟨id, shaders⟩ hi ↦ ?_
  refine meets_store ⟨hd.screen, hd.asked, hd.image⟩ rfl ?_
  simp only [estate, otherEstate, resourceEstate, slotEstate, fixedEstate, stock_insert? hi]
  abel

theorem keeps_createPipeline {p : PipelineDesc} : Keeps (Sound always now) (createPipeline p) := by
  refine keeps_sound fun d hd ↦ RunOn.meets_part_bind ?_
  refine .orFail_bind (fun shader hs ↦ ?_) fun _ hp ↦ sound_of_at hd hp
  refine RunOn.meets_lift_bind (Pipeline.meets_create fun _ ho ↦ covers_shader hs ho)
    (fun _ _ hh ↦ ⟨hd, hh⟩) fun pipeline ↦ ?_
  refine .orTrap_bind fun ⟨id, pipelines⟩ hi ↦ ?_
  refine meets_store ⟨hd.screen, hd.asked, hd.image⟩ rfl ?_
  simp only [estate, otherEstate, resourceEstate, slotEstate, fixedEstate, stock_insert? hi]
  abel

theorem keeps_createPass {p : PassDesc} : Keeps (Sound always now) (createPass p) := by
  refine keeps_sound fun d hd ↦ RunOn.meets_part_bind ?_
  have htextures : ∀ t ∈ d.textures.values, ∀ o, t.estate.Covers o → d.estate.Covers o :=
    fun t ht o ho ↦ covers_resource
      (Estate.Covers.of_sum ht ho).add_left.add_left.add_left.add_left
  refine RunOn.meets_lift_bind (Pass.meets_create htextures) (fun _ _ hh ↦ ⟨hd, hh⟩) fun pass ↦ ?_
  refine .bind (Meets.note (Q := fun _ ↦ RunOn.At d (Held _ (pass.estate + d.estate))) fun _ _ hp ↦
    hp) fun _ ↦ ?_
  refine .orTrap_bind fun ⟨id, passes⟩ hi ↦ ?_
  refine meets_store ⟨hd.screen, hd.asked, hd.image⟩ rfl ?_
  simp only [estate, otherEstate, resourceEstate, slotEstate, fixedEstate, stock_insert? hi]
  abel

/-! ### Releasing resources -/

/-- What is taken out of the device is what is then given up. -/
theorem remove?_spec {id : ResourceId} {d' : Device} {drop : Run Unit}
    (h : d.remove? id = some (d', drop)) :
    ∃ gone, d.estate = gone + d'.estate ∧
      (∀ b r, Meets (Held b (gone + r)) drop (fun _ ↦ Held b r) fun _ ↦ Held b r) ∧
      (∀ now, d'.backdrop now = d.backdrop now) ∧ (d.Shape always → d'.Shape always) := by
  have hshape : ∀ textures meshes shaders pipelines passes, d.Shape always →
      { d with textures, meshes, shaders, pipelines, passes }.Shape always :=
    fun _ _ _ _ _ hd ↦ ⟨hd.screen, hd.asked, hd.image⟩
  -- All kinds are taken out of their stock.
  cases id <;> obtain ⟨⟨x, m⟩, hr, he⟩ := Option.map_eq_some_iff.1 h <;> cases he <;>
    refine ⟨x.estate, ?_, fun _ _ ↦ x.meets_drop, fun _ ↦ rfl, hshape _ _ _ _ _⟩ <;>
    simp only [estate, otherEstate, resourceEstate, slotEstate, fixedEstate, stock_remove hr] <;>
    abel

theorem keeps_destroy {id : ResourceId} : Keeps (Sound always now) (destroy id) := by
  refine keeps_sound fun d hd ↦ RunOn.meets_part_bind ?_
  refine .ite (fun _ ↦ .refuse_bind fun _ _ hp ↦ sound_of_at hd hp) fun _ ↦ ?_
  have hwait : Keeps (d.Owns now) (work "wait idle before release"
      (Driver.perform .waitDevice (.waitDevice d.context.device))) :=
    keeps_perform ⟨rfl, rfl, rfl⟩ trivial (by simpa [Call.uses] using covers_other d.covers_device)
  refine RunOn.meets_lift_bind hwait (fun _ _ hh ↦ ⟨hd, hh⟩) fun _ ↦ ?_
  split
  · exact .fail fun _ hp ↦ sound_of_at hd hp
  · next d' drop hr =>
    obtain ⟨gone, hgone, hdrop, hb, hshape⟩ := remove?_spec hr
    refine RunOn.meets_change_bind ?_
    have hheld := hdrop (d'.backdrop now) d'.estate
    rw [Owns, hgone, ← hb]
    exact (RunOn.meets_lift hheld).mono (fun _ hp ↦ hp)
      (fun _ _ hp ↦ sound_of_at (hshape hd) hp) fun _ _ hp ↦ sound_of_at (hshape hd) hp

end Device

end RenderTargets.Vulkan
