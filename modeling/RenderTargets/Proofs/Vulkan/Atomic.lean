import RenderTargets.Proofs.Vulkan.Provenance
import RenderTargets.Proofs.Vulkan.Sets
/-!
# Making a resource is all or nothing

A command that makes a resource asks the driver for several things, and any of them may fail. If one
does, **the device is as it was and the same objects are alive**. If none does, the command brings
objects that the release of the resource takes away again, all of them and no others.

## The estate of a handle

A device that was reached is sound, so what is alive is its estate, but for descriptor sets, which
resources spare. What a making adds to the estate is the estate of the new resource. It stays that
of the handle (`Device.estateOf?`) whatever is done until the resource is released.

Handles are handed out again at last, and from then on stand for another resource. So the release
that is meant comes before that happens.
-/

namespace RenderTargets

/-- The command makes a resource. -/
def GraphicsDevice.Command.IsMaking : GraphicsDevice.Command → Prop
  | createTexture _ | createMesh _ | createShader _ | createPipeline _ | createPass _ => True
  | _ => False

namespace Vulkan

open StepWith Run GraphicsDevice

namespace Device

variable {l : List (GraphicsDevice.Command × Option ResourceId)} {s t u v w : Device × Host}
  {c : GraphicsDevice.Command} {a : Option ResourceId} {id : ResourceId} {d d' : Device}
  {drop : Run Unit} {e : Estate} {x : Holding} {calls past : List Call}

/-! ### Resources spare sets -/

/-- A resource that cannot be made leaves the device as it was. -/
theorem meets_making (hc : c.IsMaking) :
    Meets (RunOn.At d (SameSets past)) c.answer (fun _ s ↦ SameSets past s.2)
      fun _ ↦ RunOn.At d (SameSets past) := by
  cases c with
  | createTexture =>
    exact .map ((makes_createTexture Texture.spares_create fun _ _ _ hh ↦ hh).post
      fun _ _ ⟨_, _, _, hs⟩ ↦ hs.2)
  | createMesh =>
    exact .map ((makes_createMesh Mesh.spares_create).post fun _ _ ⟨_, _, _, hs⟩ ↦ hs.2)
  | createShader =>
    exact .map ((makes_createShader Shader.spares_create).post fun _ _ ⟨_, _, _, hs⟩ ↦ hs.2)
  | createPipeline =>
    exact .map ((makes_createPipeline fun _ _ ↦ Pipeline.spares_create).post
      fun _ _ ⟨_, _, _, hs⟩ ↦ hs.2)
  | createPass =>
    exact .map ((makes_createPass Pass.spares_create fun _ _ _ hh ↦ hh).post
      fun _ _ ⟨_, _, _, hs⟩ ↦ hs.2)
  | _ => exact hc.elim

theorem spares_remove? (h : d.remove? id = some (d', drop)) : Keeps (SameSets past) drop := by
  cases id <;> obtain ⟨⟨x, m⟩, -, he⟩ := Option.map_eq_some_iff.1 h <;> cases he <;>
    exact x.spares_drop

/-- A release that is taken takes the resource out of its store. -/
theorem meets_releasing :
    Meets (RunOn.At d (SameSets past)) (Command.destroy id).answer
      (fun _ s ↦ (∃ drop, d.remove? id = some (s.1, drop)) ∧ SameSets past s.2)
      fun _ ↦ RunOn.At d (SameSets past) := by
  refine .map ((releases_destroy (Q := fun _ ↦ SameSets past) (spares_perform trivial)
    (fun _ _ hh ↦ hh) fun d' drop hr ↦ (silent_remove? hr).meets (spares_remove? hr)).post ?_)
  rintro _ ⟨_, k⟩ ⟨d', drop, hr, rfl, hk⟩
  exact ⟨⟨drop, hr⟩, hk⟩

/-! ### The estate of a handle -/

/-- What a resource has to end, if it is alive. -/
def estateOf? (d : Device) : ResourceId → Option Estate
  | .texture h => (d.textures.get? h).map Texture.estate
  | .mesh h => (d.meshes.get? h).map Mesh.estate
  | .shader h => (d.shaders.get? h).map Shader.estate
  | .pipeline h => (d.pipelines.get? h).map Pipeline.estate
  | .pass h => (d.passes.get? h).map Pass.estate

/-- What was made is in the estate beside what was there. -/
theorem Updates.estate_of_made (h : Updates calls d c (some id) d') :
    ∃ e, d'.estateOf? id = some e ∧ d'.estate = e + d.estate := by
  cases h with
  | createTexture _ hi | createMesh hi | createShader hi | createPipeline hi
  | createPass _ _ _ hi =>
    refine ⟨_, congrArg (Option.map _) (Slot.Map.get?_insert?_self hi), ?_⟩
    simp only [estate, otherEstate, resourceEstate, slotEstate, fixedEstate, stock_insert? hi]
    abel

/-- What was released is no longer in the estate. -/
theorem estate_of_remove? (h : d.remove? id = some (d', drop)) :
    ∃ e, d.estateOf? id = some e ∧ d.estate = e + d'.estate := by
  cases id <;> obtain ⟨⟨x, m⟩, hr, he⟩ := Option.map_eq_some_iff.1 h <;> cases he <;>
    refine ⟨x.estate, congrArg (Option.map _) (Slot.Map.remove_eq_some_iff.1 hr).1, ?_⟩ <;>
    simp only [estate, otherEstate, resourceEstate, slotEstate, fixedEstate, stock_remove hr] <;>
    abel

theorem Leaves.estateOf? (h : d.Leaves d') : d'.estateOf? id = d.estateOf? id := by
  cases id with
  | texture x =>
    obtain ⟨ids, hids⟩ := h.get?
    rw [Device.estateOf?, hids, Option.map_map]
    rfl
  | mesh _ => rw [Device.estateOf?, h.meshes, Device.estateOf?]
  | shader _ => rw [Device.estateOf?, h.shaders, Device.estateOf?]
  | pipeline _ => rw [Device.estateOf?, h.pipelines, Device.estateOf?]
  | pass _ => rw [Device.estateOf?, h.passes, Device.estateOf?]

/-- A resource that is there has the estate that it had before, unless its handle was just handed
out. -/
theorem Updates.estateOf? (h : Updates calls d c a d') (ha : a ≠ some id)
    (he : d'.estateOf? id = some e) : d.estateOf? id = some e := by
  cases h with
  | createTexture _ hi | createMesh hi | createShader hi | createPipeline hi
  | createPass _ _ _ hi =>
    cases id <;> first
      | exact he
      | refine .trans (congrArg (Option.map _) ?_) he
        exact (Slot.Map.get?_insert?_of_ne hi fun hx ↦ ha (hx ▸ rfl)).symm
  | @destroy gone _ _ hr =>
    cases gone <;> obtain ⟨⟨_, m⟩, hn, hd⟩ := Option.map_eq_some_iff.1 hr <;> cases hd <;>
      cases id <;> first
        | exact he
        | obtain ⟨y, hy, rfl⟩ := Option.map_eq_some_iff.1 he
          exact congrArg (Option.map _) (Slot.Map.get?_of_remove hn hy)
  | other h => exact h.estateOf?.symm.trans he

/-- The estate of a handle stays the same until the handle is handed out again. -/
theorem estateOf?_of_reached (h : GraphicsDevice.Reached (· = s) Happens l t)
    (hl : some id ∉ l.map Prod.snd) (he : t.1.estateOf? id = some e) :
    s.1.estateOf? id = some e := by
  induction h with
  | start hs => exact hs ▸ he
  | taken _ took ih =>
    rw [List.map_append, List.mem_append, not_or] at hl
    refine ih hl.1 ((meets_updates.ok ⟨rfl, trivial⟩ took).estateOf? (fun ha ↦ hl.2 ?_) he)
    exact ha ▸ List.mem_singleton_self _
  | refused _ hrefused ih =>
    have hleaves : Left _ _ := meets_updates.error ⟨rfl, trivial⟩ hrefused
    exact ih hl (hleaves.estateOf?.symm.trans he)
  | between _ done ih =>
    cases done with
    | resize size => exact ih hl he
    | surround around => exact ih hl he

/-! ### What is alive -/

/-- Beside descriptor sets, the estate is what is alive. -/
theorem Sound.alive_iff (hs : Sound False False s) (hx : x.object.kind ≠ .descriptorSet) :
    Alive s.2.driver.calls x ↔ x ∈ s.1.estate.1 :=
  ⟨fun ha ↦ (Books.mem_iff hs.2 x).2 ⟨ha, hx⟩, fun hmem ↦ Held.alive hs.2 hmem⟩

/-- One device has an estate more than the other: it has the same objects alive, and those of the
estate, which the other has not. -/
structure Exceeds (e : Estate) (s t : Device × Host) : Prop where
  /-- What is alive. -/
  alive_iff : ∀ x, Alive s.2.driver.calls x ↔ x ∈ e.1 ∨ Alive t.2.driver.calls x
  /-- The estate is another one. -/
  not_alive : ∀ x ∈ e.1, ¬Alive t.2.driver.calls x

theorem Sound.exceeds (hs : Sound False False s) (ht : Sound False False t)
    (he : s.1.estate = e + t.1.estate) (hsets : SameSets t.2.driver.calls s.2) :
    Exceeds e s t := by
  have hkind : ∀ x ∈ e.1, x.object.kind ≠ .descriptorSet := fun x hx ↦
    ((Books.mem_iff hs.2 x).1 (he ▸ Estate.mem_add.2 (.inl hx))).2
  have hnodup : (e + t.1.estate).1.Nodup := he ▸ Books.nodup hs.2
  have hdisjoint := (Multiset.nodup_add.1 hnodup).2.2
  refine ⟨fun x ↦ ?_, fun x hx ht' ↦ ?_⟩
  · by_cases hx : x.object.kind = .descriptorSet
    · rw [hsets x hx, or_iff_right fun hmem ↦ hkind x hmem hx]
    · rw [hs.alive_iff hx, ht.alive_iff hx, he, Estate.mem_add]
  · exact Multiset.disjoint_left.1 hdisjoint hx ((ht.alive_iff (hkind x hx)).1 ht')

/-- A resource that was made brings the estate of its handle. -/
theorem exceeds_of_made (h : Reached l t) (hc : c.IsMaking) (hok : c.answer t = .ok (some id) u) :
    ∃ e, u.1.estateOf? id = some e ∧ Exceeds e u t := by
  have hupdates := meets_updates.ok ⟨rfl, trivial⟩ hok
  obtain ⟨e, he, hestate⟩ := hupdates.estate_of_made
  have hsets := (meets_making hc).ok ⟨rfl, fun _ _ ↦ Iff.rfl⟩ hok
  exact ⟨e, he, Sound.exceeds (Reached.sound (h.taken hok)) (Reached.sound h) hestate hsets⟩

/-- A resource that was released takes the estate of its handle away. -/
theorem exceeds_of_released (h : Reached l v) (hok : (Command.destroy id).answer v = .ok a w) :
    ∃ e, v.1.estateOf? id = some e ∧ Exceeds e v w := by
  obtain ⟨⟨drop, hr⟩, hsets⟩ := meets_releasing.ok ⟨rfl, fun _ _ ↦ Iff.rfl⟩ hok
  obtain ⟨e, he, hestate⟩ := estate_of_remove? hr
  exact ⟨e, he, Sound.exceeds (Reached.sound h) (Reached.sound (h.taken hok)) hestate
    fun x hx ↦ (hsets x hx).symm⟩

/-- A resource that could not be made leaves everything as it was. -/
theorem unchanged_of_refused (h : Reached l t) (hc : c.IsMaking) {fault : EngineError}
    (herror : c.answer t = .error (.error fault) u) :
    u.1 = t.1 ∧ ∀ x, Alive u.2.driver.calls x ↔ Alive t.2.driver.calls x := by
  obtain ⟨hd, hsets⟩ := (meets_making hc).error ⟨rfl, fun _ _ ↦ Iff.rfl⟩ herror
  have hexceeds : Exceeds 0 u t := Sound.exceeds (Reached.sound (h.refused herror))
    (Reached.sound h) (by rw [hd, zero_add]) hsets
  exact ⟨hd, fun x ↦ by simpa using hexceeds.alive_iff x⟩

/-- The object is alive in the second state and was not alive in the first. -/
def Brings (s t : Device × Host) (x : Holding) : Prop :=
  Alive t.2.driver.calls x ∧ ¬Alive s.2.driver.calls x

theorem Exceeds.mem_iff (h : Exceeds e s t) : x ∈ e.1 ↔ Brings t s x := by
  refine ⟨fun hx ↦ ⟨(h.alive_iff x).2 (.inl hx), h.not_alive x hx⟩, fun ⟨hs, ht⟩ ↦ ?_⟩
  exact ((h.alive_iff x).1 hs).resolve_right ht

/-- **Making a resource is all or nothing.** Wherever a device got and whatever the driver lets
fail, a resource that cannot be made leaves the device as it was and the same objects alive. One
that is made ends nothing, and when its handle is released, all objects that the making brought are
still alive, and they are exactly those that end. -/
theorem Reached.making_atomic (h : Reached l t) (hc : c.IsMaking) :
    (∀ fault u, c.answer t = .error (.error fault) u →
      u.1 = t.1 ∧ ∀ x, Alive u.2.driver.calls x ↔ Alive t.2.driver.calls x) ∧
    ∀ id u, c.answer t = .ok (some id) u →
      (∀ x, Alive t.2.driver.calls x → Alive u.2.driver.calls x) ∧
      ∀ l' v w, GraphicsDevice.Reached (· = u) Happens l' v → some id ∉ l'.map Prod.snd →
        (Command.destroy id).answer v = .ok none w →
        (∀ x, Brings t u x → Alive v.2.driver.calls x) ∧
        ∀ x, Alive w.2.driver.calls x ↔ Alive v.2.driver.calls x ∧ ¬Brings t u x := by
  refine ⟨fun _ _ ↦ unchanged_of_refused h hc, fun id u hok ↦ ?_⟩
  obtain ⟨e, he, hmade⟩ := exceeds_of_made h hc hok
  refine ⟨fun x hx ↦ (hmade.alive_iff x).2 (.inr hx), fun l' v w hv hl hdestroy ↦ ?_⟩
  obtain ⟨e', he', hgone⟩ := exceeds_of_released ((h.taken hok).trans hv) hdestroy
  -- What the handle stands for is what was made.
  obtain rfl := Option.some.inj (he.symm.trans (estateOf?_of_reached hv hl he'))
  refine ⟨fun x hx ↦ (hgone.alive_iff x).2 (.inl (hmade.mem_iff.2 hx)), fun x ↦ ?_⟩
  rw [hgone.alive_iff, ← hmade.mem_iff]
  refine ⟨fun hx ↦ ⟨.inr hx, fun hmem ↦ hgone.not_alive x hmem hx⟩, fun ⟨hx, hno⟩ ↦ ?_⟩
  exact hx.resolve_left hno

/-! ### A texture of three images -/

/-- A texture that is resolved and has a depth buffer. -/
def layeredTexture : TextureDesc :=
  ⟨"layers", 4, 4, .rgba8Unorm, .sampledAndRenderTarget, 4, some .depth24Stencil8⟩

/-- The command fails, and so did the call. -/
def failsAt (call : Call) (c : GraphicsDevice.Command) (s : Device × Host) : Bool :=
  match c.answer s with
  | .error (.error _) t => t.2.driver.calls.contains call
  | _ => false

/-- The device makes the resource and releases it again. -/
def makesAndReleases (c : GraphicsDevice.Command) (s : Device × Host) : Bool :=
  match c.answer s with
  | .ok (some id) t =>
    match (Command.destroy id).answer t with
    | .ok none _ => true
    | _ => false
  | _ => false

theorem exists_of_failsAt {call : Call} (h : failsAt call c s) :
    ∃ fault t, c.answer s = .error (.error fault) t ∧ call ∈ t.2.driver.calls := by
  rw [failsAt] at h
  split at h
  · next fault t ht => exact ⟨fault, t, ht, List.contains_iff_mem.1 h⟩
  · cases h

theorem exists_of_makesAndReleases (h : makesAndReleases c s) :
    ∃ id t u, c.answer s = .ok (some id) t ∧ (Command.destroy id).answer t = .ok none u := by
  rw [makesAndReleases] at h
  split at h
  · next id t ht =>
    split at h
    · next u hu => exact ⟨id, t, u, ht, hu⟩
    · cases h
  · cases h

/-- The memory of the last image cannot be bound, and nothing is left of the texture. If it can, the
texture is made and released, and nothing is left of it either. -/
theorem making_atomic_layered :
    (∃ t u fault, Reached [] t ∧
      (Command.createTexture layeredTexture).answer t = .error (.error fault) u ∧
      .failed .bindImageMemory (.bindImageMemory ⟨4⟩) ⟨-1⟩ ∈ u.2.driver.calls ∧
      u.1 = t.1 ∧ ∀ x, Alive u.2.driver.calls x ↔ Alive t.2.driver.calls x) ∧
    ∃ t u w id, Reached [] t ∧
      (Command.createTexture layeredTexture).answer t = .ok (some id) u ∧
      (Command.destroy id).answer u = .ok none w ∧
      ∀ x, Alive w.2.driver.calls x ↔ Alive t.2.driver.calls x := by
  have hmaking : (Command.createTexture layeredTexture).IsMaking := trivial
  constructor
  · obtain ⟨t, ht, hcheck⟩ := exists_new plainSurface [⟨.bindImageMemory, 4, ⟨-1⟩⟩]
      (failsAt (.failed .bindImageMemory (.bindImageMemory ⟨4⟩) ⟨-1⟩)
        (.createTexture layeredTexture)) (by decide +kernel)
    obtain ⟨fault, u, hu, hfailed⟩ := exists_of_failsAt hcheck
    have hreached : Reached [] t := .start ht
    exact ⟨t, u, fault, hreached, hu, hfailed,
      (Reached.making_atomic hreached hmaking).1 fault u hu⟩
  · obtain ⟨t, ht, hcheck⟩ := exists_new plainSurface []
      (makesAndReleases (.createTexture layeredTexture)) (by decide +kernel)
    obtain ⟨id, u, w, hu, hw⟩ := exists_of_makesAndReleases hcheck
    have hreached : Reached [] t := .start ht
    obtain ⟨hkept, hrest⟩ := (Reached.making_atomic hreached hmaking).2 id u hu
    obtain ⟨-, hgone⟩ := hrest [] u w (.start rfl) List.not_mem_nil hw
    refine ⟨t, u, w, id, hreached, hu, hw, fun x ↦ (hgone x).trans ⟨fun ⟨hx, hno⟩ ↦ ?_, ?_⟩⟩
    · exact not_not.1 fun hnot ↦ hno ⟨hx, hnot⟩
    · exact fun hx ↦ ⟨hkept x hx, fun hnew ↦ hnew.2 hx⟩

end Device

end Vulkan

end RenderTargets
