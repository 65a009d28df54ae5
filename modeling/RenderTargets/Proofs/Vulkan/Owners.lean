import RenderTargets.Proofs.Vulkan.Device.Evident
/-!
# Owners of images

Every image that shaders may read was made for one texture. It goes to no other one, also when that
texture is gone, because no object is made twice. So an image has an **owner** for good, which is
the handle that its texture got. What a pass renders into is owned by the textures that the pass
names, or is read by no shader.

Owners are written down nowhere. They are given out when a texture is made, and nothing takes them
back (`Device.Ownership`). It does not matter that handles of textures may start over: the images do
not.
-/

namespace RenderTargets.Vulkan

open StepWith GraphicsDevice

variable {ctx : Context} {calls calls' : List Call} {t u : Texture} {i : Image} {p : Pass}
  {owner owner' : Object .image → TextureId} {d d' : Device} {k k' : Host} {id : TextureId}
  {textures : TextureMap} {x : Holding}

/-! ### Images of a texture -/

/-- The images of a texture that hold colors. -/
def Texture.images (t : Texture) : List Image := t.color :: t.resolve.toList

theorem Texture.resolve_mem_images (h : t.resolve = some i) : i ∈ t.images := by
  simp [images, h]

/-- The image that shaders read is one of them. -/
theorem Texture.mem_images_of_sampledImage? (h : t.sampledImage? = some i) : i ∈ t.images := by
  rw [sampledImage?] at h
  split at h
  · cases h
  · split at h
    · exact resolve_mem_images h
    · cases h
      exact List.mem_cons_self

theorem Texture.image_mem_estate (hi : i ∈ t.images) : ⟨i.image.any, none⟩ ∈ t.estate.1 := by
  have himage (j : Image) : ⟨j.image.any, none⟩ ∈ j.estate.1 := by simp [Image.estate]
  rw [Texture.estate, Estate.mem_add, Estate.mem_add]
  rcases List.mem_cons.1 hi with rfl | hi
  · exact .inl (.inl (himage t.color))
  · rw [Option.mem_toList.1 hi]
    exact .inl (.inr (himage i))

/-- The view is one of an image that was made. -/
structure Object.IsViewOf (v : Object .view) (image : Object .image) (calls : List Call) :
    Prop where
  /-- The image. -/
  made : ∃ info, .createImage image info ∈ calls
  /-- The view. -/
  view : ∃ format aspect, .createView v ⟨image.any, format, aspect⟩ ∈ calls

theorem Object.lasts_isViewOf (v : Object .view) (image : Object .image) :
    Lasts (v.IsViewOf image) := by
  rintro l l' hl ⟨⟨info, hmade⟩, format, aspect, hview⟩
  exact ⟨⟨info, hl hmade⟩, format, aspect, hl hview⟩

theorem Texture.IsMade.isViewOf (h : t.IsMade ctx calls) (hi : i ∈ t.images) :
    i.view.IsViewOf i.image calls := by
  rcases List.mem_cons.1 hi with rfl | hi
  · exact ⟨⟨_, h.color.image⟩, _, _, h.color.view⟩
  · have hmade := h.resolve i (Option.mem_toList.1 hi)
    exact ⟨⟨_, hmade.image⟩, _, _, hmade.view⟩

/-! ### Ownership -/

/-- The pass renders into images of its textures, and into images that no shader reads. -/
def Pass.RendersInto (owner : Object .image → TextureId) (p : Pass) (calls : List Call) : Prop :=
  ∃ info, .createFramebuffer p.framebuffer info ∈ calls ∧ ∀ v ∈ info.views,
    v.IsUnread calls ∨ ∃ image, v.IsViewOf image calls ∧ owner image ∈ p.textures

theorem Pass.lasts_rendersInto (owner : Object .image → TextureId) (p : Pass) :
    Lasts (p.RendersInto owner) := by
  rintro l l' hl ⟨info, hinfo, hviews⟩
  refine ⟨info, hl hinfo, fun v hv ↦ (hviews v hv).imp (v.lasts_isUnread hl) ?_⟩
  exact fun ⟨image, hview, howner⟩ ↦ ⟨image, v.lasts_isViewOf image hl hview, howner⟩

/-- A new pass renders into images of the textures that it is made of. -/
theorem Pass.rendersInto_of_partsOf {desc : PassDesc} {parts : Parts} {m : TextureMap}
    (hparts : partsOf desc m = .ok parts) (hp : p.IsOf desc parts)
    (hjoined : p.IsJoined ctx desc parts calls)
    (hmade : ∀ {id t}, m.get? id = some t → t.IsMade ctx calls)
    (howner : ∀ {id t i}, m.get? id = some t → i ∈ t.images → owner i.image = id) :
    p.RendersInto owner calls := by
  have hfit := fit_of_partsOf hparts
  have hcolor {t : Texture} {i : Image} (ht : t ∈ parts.colors) (hi : i ∈ t.images) :
      i.view.IsViewOf i.image calls ∧ owner i.image ∈ p.textures := by
    obtain ⟨id, hid, hfound⟩ := id_of_colorTextures hfit.colors t ht
    refine ⟨(hmade hfound).isViewOf hi, ?_⟩
    rw [howner hfound hi, hp.textures]
    exact hid
  refine ⟨_, hjoined.framebuffer, fun v hv ↦ ?_⟩
  -- The views are of colors, of what they are resolved into, and of the depth buffer, which no
  -- shader reads.
  rw [viewsOf, List.mem_append, List.mem_append] at hv
  rcases hv with (hv | hv) | hv
  · obtain ⟨t, ht, rfl⟩ := List.mem_map.1 hv
    exact .inr ⟨_, hcolor ht List.mem_cons_self⟩
  · split at hv
    · obtain ⟨t, ht, htv⟩ := List.mem_filterMap.1 hv
      obtain ⟨i, hi, rfl⟩ := Option.map_eq_some_iff.1 htv
      exact .inr ⟨_, hcolor ht (Texture.resolve_mem_images hi)⟩
    · cases hv
  · obtain ⟨t, ht, htv⟩ := Option.bind_eq_some_iff.1 (Option.mem_toList.1 hv)
    obtain ⟨⟨f, i⟩, hi, rfl⟩ := Option.map_eq_some_iff.1 htv
    rcases depthTexture_eq_ok hfit.depth with ⟨-, hnone⟩ | ⟨id, u, -, hu, hfound, -⟩
    · cases ht.symm.trans hnone
    · obtain rfl := Option.some.inj (ht.symm.trans hu)
      exact .inl (((hmade hfound).depth f i hi).isUnread usageDepth_unread)

namespace Device

/-- Everyone has what the owners say. -/
structure Ownership (owner : Object .image → TextureId) (d : Device) (calls : List Call) :
    Prop where
  /-- A texture owns its images. -/
  textures : ∀ {id t i}, d.textures.get? id = some t → i ∈ t.images → owner i.image = id
  /-- A pass renders into what its textures own. -/
  passes : ∀ {id p}, d.passes.get? id = some p → p.RendersInto owner calls

/-- What is left keeps its owners. -/
theorem Ownership.shrink (h : d.Ownership owner calls) (hl : calls ⊆ calls')
    (htextures : ∀ {id u}, d'.textures.get? id = some u →
      ∃ t, d.textures.get? id = some t ∧ u.images = t.images)
    (hpasses : ∀ {id p}, d'.passes.get? id = some p → d.passes.get? id = some p) :
    d'.Ownership owner calls' where
  textures hu hi := by
    obtain ⟨t, ht, himages⟩ := htextures hu
    exact h.textures ht (himages ▸ hi)
  passes hp := Pass.lasts_rendersInto owner _ hl (h.passes (hpasses hp))

theorem Leaves.ownership (hd : d.Leaves d') (h : d.Ownership owner calls) (hl : calls ⊆ calls') :
    d'.Ownership owner calls' := by
  refine h.shrink hl (fun {id u} hu ↦ ?_) fun hp ↦ hd.passes ▸ hp
  obtain ⟨t, ht, he⟩ := hd.of_get? hu
  exact ⟨t, ht, by rw [he]; rfl⟩

/-! ### New images -/

/-- What a texture brings along was not there before, not even under another owner. -/
theorem not_named_of_insert? (hs : Sound False False (d, k))
    (ht : Sound False False ({ d with textures }, k')) (hl : k.driver.calls <:+ k'.driver.calls)
    (hi : d.textures.insert? u = some (id, textures)) (hx : x ∈ u.estate.1) :
    ¬Named k.driver.calls x.object := by
  have hestate : ({ d with textures } : Device).estate = u.estate + d.estate := by
    simp only [estate, otherEstate, resourceEstate, slotEstate, fixedEstate, stock_insert? hi]
    abel
  have hbooks : Held _ (u.estate + d.estate) k' := hestate ▸ ht.2
  obtain ⟨halive, hkind⟩ := (Books.mem_iff hbooks x).1 (Estate.mem_add.2 (.inl hx))
  intro hnamed
  -- It would have been alive before, and so be held twice now.
  have hbefore : Alive k.driver.calls x := by
    obtain ⟨later, hlater⟩ := hl
    have hfair : Fair _ (later ++ k.driver.calls) := hlater ▸ Books.fair hbooks
    by_contra hdead
    exact (hfair.not_alive_append hnamed hdead).2 (hlater ▸ halive)
  have hheld : x ∈ d.estate.1 := (Books.mem_iff hs.2 x).2 ⟨hbefore, hkind⟩
  exact Multiset.disjoint_left.1 (Multiset.nodup_add.1 (Books.nodup hbooks)).2.2 hx hheld

/-- A texture that is made becomes the owner of its images. -/
theorem Ownership.give (h : d.Ownership owner calls) (hl : calls ⊆ calls')
    (hmade : ∀ {id t}, d.textures.get? id = some t → t.IsMade ctx calls)
    (hnew : ∀ i ∈ u.images, ¬Named calls i.image.any)
    (hi : d.textures.insert? u = some (id, textures)) :
    ∃ owner, ({ d with textures } : Device).Ownership owner calls' := by
  let given (image : Object .image) : TextureId :=
    if image ∈ u.images.map (·.image) then id else owner image
  -- Images that are there keep their owner.
  have hkeep {image : Object .image} {info : ImageInfo} (hm : .createImage image info ∈ calls) :
      given image = owner image := by
    refine if_neg fun hmem ↦ ?_
    obtain ⟨i, hi, rfl⟩ := List.mem_map.1 hmem
    exact hnew i hi ⟨_, hm, _, rfl, rfl⟩
  refine ⟨given, fun {id' t i} ht himage ↦ ?_, fun {id' p} hp ↦ ?_⟩
  · rcases Slot.Map.get?_of_get?_insert? hi ht with ⟨rfl, rfl⟩ | hold
    · exact if_pos (List.mem_map.2 ⟨i, himage, rfl⟩)
    · obtain ⟨info, hm⟩ := ((hmade hold).isViewOf himage).made
      exact (hkeep hm).trans (h.textures hold himage)
  · obtain ⟨info, hinfo, hviews⟩ := h.passes hp
    refine ⟨info, hl hinfo, fun v hv ↦ (hviews v hv).imp (v.lasts_isUnread hl) ?_⟩
    rintro ⟨image, hview, howner⟩
    obtain ⟨_, hm⟩ := hview.made
    exact ⟨image, v.lasts_isViewOf image hl hview, (hkeep hm).symm ▸ howner⟩

/-! ### Devices that are reached -/

variable {l : List (GraphicsDevice.Command × Option ResourceId)} {c : GraphicsDevice.Command}
  {a : Option ResourceId} {s : Device × Host}

/-- A command that is taken keeps owners, and gives new images one. -/
theorem Ownership.updates (h : d.Ownership owner k.driver.calls) (hs : Reached l (d, k))
    (ht : Sound False False (d', k')) (hl : k.driver.calls <:+ k'.driver.calls)
    (hd : Updates k'.driver.calls d c a d') :
    ∃ owner, d'.Ownership owner k'.driver.calls := by
  have hevident := hs.evident
  cases hd with
  | createTexture _ hi =>
    refine h.give hl.subset (fun ht ↦ (hevident.textures ht).1) (fun i himage ↦ ?_) hi
    exact not_named_of_insert? hs.sound ht hl hi (Texture.image_mem_estate himage)
  | createMesh | createShader | createPipeline =>
    exact ⟨owner, h.shrink hl.subset (fun ht ↦ ⟨_, ht, rfl⟩) id⟩
  | createPass hparts hmade hjoined hi =>
    refine ⟨owner, h.textures, fun {id p} hp ↦ ?_⟩
    rcases Slot.Map.get?_of_get?_insert? hi hp with ⟨-, rfl⟩ | hold
    · refine Pass.rendersInto_of_partsOf hparts hmade hjoined (fun {id t} ht ↦ ?_) h.textures
      exact t.lasts_isMade hl.subset (hevident.textures ht).1
    · exact p.lasts_rendersInto owner hl.subset (h.passes hold)
  | @destroy id _ _ hr =>
    refine ⟨owner, ?_⟩
    cases id with
    | texture =>
      obtain ⟨⟨_, n⟩, hn, he⟩ := Option.map_eq_some_iff.1 hr
      cases he
      exact h.shrink hl.subset (fun ht ↦ ⟨_, Slot.Map.get?_of_remove hn ht, rfl⟩) id
    | pass =>
      obtain ⟨⟨_, n⟩, hn, he⟩ := Option.map_eq_some_iff.1 hr
      cases he
      exact h.shrink hl.subset (fun ht ↦ ⟨_, ht, rfl⟩) (Slot.Map.get?_of_remove hn)
    | mesh | shader | pipeline =>
      obtain ⟨⟨_, n⟩, -, he⟩ := Option.map_eq_some_iff.1 hr
      cases he
      exact h.shrink hl.subset (fun ht ↦ ⟨_, ht, rfl⟩) id
  | other hd => exact ⟨owner, hd.ownership h hl.subset⟩

/-- **Wherever a device gets, its images have owners.** -/
theorem Reached.ownership (h : Reached l s) : ∃ owner, s.1.Ownership owner s.2.driver.calls := by
  induction h with
  | start h =>
    refine ⟨fun _ ↦ ⟨0, 0⟩, fun {x t _} ht ↦ ?_, fun {q p} hp ↦ ?_⟩
    · cases (h.get?_textures x).symm.trans ht
    · cases (h.get?_passes q).symm.trans hp
  | taken hs took ih =>
    obtain ⟨owner, h⟩ := ih
    exact h.updates hs (Reached.sound (.taken hs took)) (Reached.suffix hs (settle_of_ok took))
      (meets_updates.ok ⟨rfl, trivial⟩ took)
  | refused hs hrefused ih =>
    obtain ⟨owner, h⟩ := ih
    have hleft : Left _ _ := meets_updates.error ⟨rfl, trivial⟩ hrefused
    exact ⟨owner, hleft.ownership h (Reached.suffix hs (settle_of_error hrefused)).subset⟩
  | between _ done ih =>
    obtain ⟨owner, h⟩ := ih
    cases done with
    | resize size => exact ⟨owner, h.shrink (List.Subset.refl _) (fun ht ↦ ⟨_, ht, rfl⟩) id⟩
    | surround around => exact ⟨owner, h⟩

end Device

end RenderTargets.Vulkan
