import RenderTargets.Proofs.Slot.Twins
import RenderTargets.Proofs.Vulkan.Reached
import RenderTargets.Proofs.Vulkan.Replay
/-!
# Where the images of a pass come from

The images of a pass were put together when it was made, and a device does not know them any more:
it keeps a framebuffer, and the textures by their handles. What they are is read off **the trace and
the history together** (`Provenance`). The trace has the call that put them together, and what it
was given are views of the textures that the pass was made of. The history says which of these
textures are still the same.

So there is one invariant of a device, beside that it is sound: its textures are backed by images of
their size and samples, and its passes were made of textures of which it is known what became
(`Device.Lineage`). What a pass shows follows from what it was made of.
-/

namespace RenderTargets.Vulkan

open StepWith Run GraphicsDevice

variable {calls calls' : List Call} {d d' : Device} {c : GraphicsDevice.Command}
  {a : Option ResourceId} {x : TextureId} {q : PassId} {t u : Texture} {p : Pass} {desc : PassDesc}
  {l : List (GraphicsDevice.Command × Option ResourceId)} {s : Device × Host} {v : Object .view}
  {ids : List TextureId} {m : TextureMap}

/-! ### The views of a texture -/

/-- All views of a texture. -/
def Texture.views (t : Texture) : List (Object .view) :=
  t.color.view :: ((t.resolve.map (·.view)).toList ++ t.depthView?.toList)

theorem Texture.resolve_mem_views {i : Image} (h : t.resolve = some i) : i.view ∈ t.views := by
  simp [Texture.views, h]

theorem Texture.depth_mem_views (h : t.depthView? = some v) : v ∈ t.views := by
  simp [Texture.views, h]

theorem Texture.mem_estate (hv : v ∈ t.views) : ⟨v.any, none⟩ ∈ t.estate.1 := by
  have himage (i : Image) : ⟨i.view.any, none⟩ ∈ i.estate.1 := by simp [Image.estate]
  rw [Texture.estate, Estate.mem_add, Estate.mem_add]
  rcases List.mem_cons.1 hv with rfl | hv
  · exact .inl (.inl (himage t.color))
  rcases List.mem_append.1 hv with hv | hv
  · obtain ⟨i, hi, rfl⟩ := Option.map_eq_some_iff.1 (Option.mem_toList.1 hv)
    exact .inl (.inr (hi ▸ himage i))
  · obtain ⟨⟨f, i⟩, hi, rfl⟩ := Option.map_eq_some_iff.1 (Option.mem_toList.1 hv)
    exact .inr (hi ▸ himage i)

/-- A mark is no matter of images. -/
theorem Texture.IsBacked.mark (h : t.IsBacked calls) (mark : Bool) :
    ({ t with resolved := mark } : Texture).IsBacked calls :=
  ⟨h.color, h.resolve, h.depth⟩

/-- The views of live textures are alive. -/
theorem Device.alive_view (hs : Sound False False s) (ht : s.1.textures.get? x = some t)
    (hv : v ∈ t.views) : Alive s.2.driver.calls ⟨v.any, none⟩ := by
  have htextures : ⟨v.any, none⟩ ∈ (stock Texture.estate s.1.textures).1 :=
    Estate.mem_sum (Slot.Map.mem_values_of_get? ht) (Texture.mem_estate hv)
  refine Held.alive hs.2 ?_
  simp only [Device.estate, otherEstate, resourceEstate, Estate.mem_add]
  exact .inr (.inl (.inr (.inr (.inr (.inr htextures)))))

/-! ### The parts of a new pass -/

/-- Every part to render into was looked up. -/
theorem Pass.id_of_colorTextures {i : ℕ} {ts : List Texture}
    (h : colorTextures m i ids = .ok ts) : ∀ t ∈ ts, ∃ id ∈ ids, m.get? id = some t := by
  induction ids generalizing i ts with
  | nil =>
    cases h
    exact List.forall_mem_nil _
  | cons id ids ih =>
    rw [colorTextures] at h
    split at h
    · cases h
    · next t ht =>
      split at h
      · cases h
      · obtain ⟨rest, hrest, h⟩ := exists_ok_of_bind h
        cases h
        refine List.forall_mem_cons.2 ⟨⟨id, List.mem_cons_self, ht⟩, fun u hu ↦ ?_⟩
        obtain ⟨id', hid', hu⟩ := ih hrest u hu
        exact ⟨id', List.mem_cons_of_mem id hid', hu⟩

/-- The texture for depth has a depth buffer and the size of the first attachment. -/
theorem Pass.depthTexture_eq_ok {first : Texture} {id : Option TextureId} {o : Option Texture}
    (h : depthTexture m first id = .ok o) : id = none ∧ o = none ∨
      ∃ x t, id = some x ∧ o = some t ∧ m.get? x = some t ∧ t.depth.isSome ∧
        t.extent = first.extent := by
  rw [depthTexture.eq_def] at h
  split at h
  · cases h
    exact .inl ⟨rfl, rfl⟩
  · next x =>
    split at h
    · cases h
    · next t ht =>
      split at h
      · next hfits =>
        cases h
        rw [Bool.and_eq_true, beq_iff_eq] at hfits
        exact .inr ⟨x, t, rfl, rfl, ht, hfits⟩
      · cases h

namespace Pass.Parts.Fit

variable {parts : Pass.Parts}

/-- The textures of a new pass are alive. -/
theorem exists_of_attaches (h : parts.Fit desc m) (hx : desc.Attaches x) :
    ∃ t, m.get? x = some t := by
  rcases hx with hx | hx
  · obtain ⟨t, -, ht⟩ := exists_of_colorTextures h.colors x hx
    exact ⟨t, ht⟩
  · rcases depthTexture_eq_ok h.depth with ⟨hnone, -⟩ | ⟨y, t, hy, -, ht, -⟩
    · cases hx.symm.trans hnone
    · obtain rfl := Option.some.inj (hx.symm.trans hy)
      exact ⟨t, ht⟩

/-- The images of a new pass are images of its textures. -/
theorem exists_of_mem_viewsOf (h : parts.Fit desc m) (hv : v ∈ viewsOf parts) :
    ∃ x t, desc.Attaches x ∧ m.get? x = some t ∧ v ∈ t.views := by
  have hcolor {t : Texture} (ht : t ∈ parts.colors) (hv : v ∈ t.views) :
      ∃ x t, desc.Attaches x ∧ m.get? x = some t ∧ v ∈ t.views := by
    obtain ⟨x, hx, ht⟩ := id_of_colorTextures h.colors t ht
    exact ⟨x, t, .inl hx, ht, hv⟩
  rw [viewsOf, List.mem_append, List.mem_append] at hv
  rcases hv with (hv | hv) | hv
  · obtain ⟨t, ht, rfl⟩ := List.mem_map.1 hv
    exact hcolor ht List.mem_cons_self
  · split at hv
    · obtain ⟨t, ht, htv⟩ := List.mem_filterMap.1 hv
      obtain ⟨i, hi, rfl⟩ := Option.map_eq_some_iff.1 htv
      exact hcolor ht (Texture.resolve_mem_views hi)
    · cases hv
  · obtain ⟨t, ht, htv⟩ := Option.bind_eq_some_iff.1 (Option.mem_toList.1 hv)
    rcases depthTexture_eq_ok h.depth with ⟨-, hnone⟩ | ⟨x, u, hx, hu, hfound, -⟩
    · cases ht.symm.trans hnone
    · obtain rfl := Option.some.inj (ht.symm.trans hu)
      exact ⟨x, t, .inr hx, hfound, Texture.depth_mem_views htv⟩

end Pass.Parts.Fit

/-! ### What commands do to textures and passes -/

namespace Device

/-- Marks change nothing but marks. -/
theorem get?_foldl_markResolved :
    (ids.foldl markResolved m).get? x =
      (m.get? x).map fun t ↦ { t with resolved := t.resolved || ids.contains x } := by
  induction ids generalizing m with
  | nil => simp
  | cons id ids ih =>
    rw [List.foldl_cons, ih, markResolved]
    by_cases hx : x = id
    · subst hx
      rw [Slot.Map.get?_modify_self]
      cases m.get? x <;> simp
    · rw [Slot.Map.get?_modify_of_ne hx]
      simp [hx]

theorem Leaves.get? (h : d.Leaves d') :
    ∃ ids : List TextureId, ∀ x, d'.textures.get? x =
      (d.textures.get? x).map fun t ↦ { t with resolved := t.resolved || ids.contains x } := by
  obtain ⟨ids, hids⟩ := h.textures
  exact ⟨ids, fun x ↦ by rw [hids, get?_foldl_markResolved]⟩

/-- The texture is the same, but for its mark. -/
def Stays (m : TextureMap) (x : TextureId) (t : Texture) : Prop :=
  ∃ mark, m.get? x = some { t with resolved := mark }

theorem Leaves.stays (h : d.Leaves d') (ht : d.textures.get? x = some t) :
    Stays d'.textures x t := by
  obtain ⟨ids, hids⟩ := h.get?
  exact ⟨_, by rw [hids, ht, Option.map_some]⟩

theorem Leaves.of_get? (h : d.Leaves d') (hu : d'.textures.get? x = some u) :
    ∃ t, d.textures.get? x = some t ∧ u = { t with resolved := u.resolved } := by
  obtain ⟨ids, hids⟩ := h.get?
  rw [hids] at hu
  obtain ⟨t, ht, rfl⟩ := Option.map_eq_some_iff.1 hu
  exact ⟨t, ht, rfl⟩

/-- A texture stays until it is released. -/
theorem Updates.stays (h : Updates calls d c a d') (ht : d.textures.get? x = some t) :
    Stays d'.textures x t ∨
      c = .destroy (.texture x) ∧ a = none ∧ ¬d'.textures.contains x := by
  cases h with
  | createTexture _ hi => exact .inl ⟨_, Slot.Map.get?_insert?_of_get? hi ht⟩
  | createMesh | createShader | createPipeline | createPass => exact .inl ⟨_, ht⟩
  | @destroy id _ _ hr =>
    cases id with
    | texture y =>
      obtain ⟨⟨_, n⟩, hn, he⟩ := Option.map_eq_some_iff.1 hr
      cases he
      by_cases hx : x = y
      · exact .inr ⟨hx ▸ rfl, rfl, fun hlive ↦ ((Slot.Map.contains_remove hn).1 hlive).1 hx⟩
      · exact .inl ⟨_, (Slot.Map.get?_remove_of_ne hn hx).trans ht⟩
    | mesh _ | shader _ | pipeline _ | pass _ =>
      obtain ⟨_, -, he⟩ := Option.map_eq_some_iff.1 hr
      cases he
      exact .inl ⟨_, ht⟩
  | other h => exact .inl (h.stays ht)

/-- A texture that is there was there before, or was just made. -/
theorem Updates.texture (h : Updates calls d c a d') (hu : d'.textures.get? x = some u) :
    (∃ t, d.textures.get? x = some t ∧ u = { t with resolved := u.resolved }) ∨
      (∃ desc, c = .createTexture desc) ∧ a = some (.texture x) ∧ u.IsBacked calls := by
  cases h with
  | @createTexture _ id _ _ hbacked hi =>
    by_cases hx : x = id
    · subst hx
      obtain rfl := Option.some.inj ((Slot.Map.get?_insert?_self hi).symm.trans hu)
      exact .inr ⟨⟨_, rfl⟩, rfl, hbacked⟩
    · exact .inl ⟨u, (Slot.Map.get?_insert?_of_ne hi hx).symm.trans hu, rfl⟩
  | createMesh | createShader | createPipeline | createPass => exact .inl ⟨u, hu, rfl⟩
  | @destroy id _ _ hr =>
    cases id <;> obtain ⟨⟨_, n⟩, hn, he⟩ := Option.map_eq_some_iff.1 hr <;> cases he
    · exact .inl ⟨u, Slot.Map.get?_of_remove hn hu, rfl⟩
    all_goals exact .inl ⟨u, hu, rfl⟩
  | other h => exact .inl (h.of_get? hu)

theorem Updates.of_contains (h : Updates calls d c a d') (hx : d'.textures.contains x) :
    d.textures.contains x ∨ ∃ desc, c = .createTexture desc ∧ a = some (.texture x) := by
  obtain ⟨u, hu⟩ := Option.isSome_iff_exists.1 hx
  rcases h.texture hu with ⟨t, ht, -⟩ | ⟨⟨desc, hc⟩, ha, -⟩
  · exact .inl (Option.isSome_of_eq_some ht)
  · exact .inr ⟨desc, hc, ha⟩

/-- A pass that is there was there before and is not the answer, or was just made. -/
theorem Updates.pass (h : Updates calls d c a d') (hp : d'.passes.get? q = some p) :
    (d.passes.get? q = some p ∧ a ≠ some (.pass q)) ∨
      ∃ desc parts, c = .createPass desc ∧ a = some (.pass q) ∧
        Pass.partsOf desc d.textures = .ok parts ∧ p.IsOf desc parts ∧
        p.IsJoined d.context desc parts calls ∧ d'.textures = d.textures := by
  cases h with
  | createTexture | createMesh | createShader | createPipeline => exact .inl ⟨hp, by simp⟩
  | @createPass _ id _ _ _ hfit hmade hjoined hi =>
    by_cases hq : q = id
    · subst hq
      obtain rfl := Option.some.inj ((Slot.Map.get?_insert?_self hi).symm.trans hp)
      exact .inr ⟨_, _, rfl, rfl, hfit, hmade, hjoined, rfl⟩
    · exact .inl ⟨(Slot.Map.get?_insert?_of_ne hi hq).symm.trans hp, by simpa using Ne.symm hq⟩
  | @destroy id _ _ hr =>
    cases id with
    | pass _ =>
      obtain ⟨⟨_, n⟩, hn, he⟩ := Option.map_eq_some_iff.1 hr
      cases he
      exact .inl ⟨Slot.Map.get?_of_remove hn hp, by simp⟩
    | texture _ | mesh _ | shader _ | pipeline _ =>
      obtain ⟨_, -, he⟩ := Option.map_eq_some_iff.1 hr
      cases he
      exact .inl ⟨hp, by simp⟩
  | other h => exact .inl ⟨h.passes ▸ hp, by simp⟩

end Device

/-! ### How passes were made -/

/-- The pass was put together of textures of the map. -/
def Pass.IsMadeFrom (desc : PassDesc) (m : TextureMap) (p : Pass) (calls : List Call) : Prop :=
  ∃ ctx parts, partsOf desc m = .ok parts ∧ p.IsOf desc parts ∧ p.IsJoined ctx desc parts calls

theorem Pass.lasts_isMadeFrom (desc : PassDesc) (m : TextureMap) (p : Pass) :
    Lasts (p.IsMadeFrom desc m) := by
  rintro l l' hl ⟨ctx, parts, hparts, hp, hjoined⟩
  exact ⟨ctx, parts, hparts, hp, hl hjoined.renderPass, hl hjoined.framebuffer⟩

/-- What trace and history say of textures, and of the textures that passes were made of. -/
structure Device.Lineage (l : List (GraphicsDevice.Command × Option ResourceId))
    (calls : List Call) (d : Device) : Prop where
  /-- Textures have the images that they are to have. -/
  textures : ∀ x t, d.textures.get? x = some t → t.IsBacked calls
  /-- Passes were made of textures that are there, or were released since. -/
  passes : ∀ q p, d.passes.get? q = some p → ∃ desc m, p.IsMadeFrom desc m calls ∧
    Attached l q desc (fun x ↦ ∃ t, m.get? x = some t ∧ Stays d.textures x t)
      fun x ↦ d.textures.contains x

namespace Device.Lineage

/-- Marks and later calls are no matter. -/
theorem leaves (h : Lineage l calls d) (hl : calls ⊆ calls') (hd : d.Leaves d') :
    Lineage l calls' d' where
  textures x u hu := by
    obtain ⟨t, ht, he⟩ := hd.of_get? hu
    rw [he]
    exact (t.lasts_isBacked hl (h.textures x t ht)).mark _
  passes q p hp := by
    obtain ⟨desc, m, hmade, hattached⟩ := h.passes q p (hd.passes ▸ hp)
    refine ⟨desc, m, p.lasts_isMadeFrom desc m hl hmade, hattached.mono ?_ fun x hx ↦ ?_⟩
    · rintro x ⟨t, ht, mark, hmark⟩
      have hstays := hd.stays hmark
      exact ⟨t, ht, hstays⟩
    · obtain ⟨u, hu⟩ := Option.isSome_iff_exists.1 hx
      obtain ⟨t, ht, -⟩ := hd.of_get? hu
      exact Option.isSome_of_eq_some ht

/-- What a command does is in the history. -/
theorem updates (h : Lineage l calls d) (hl : calls ⊆ calls') (hd : Updates calls' d c a d') :
    Lineage (l ++ [(c, a)]) calls' d' where
  textures x u hu := by
    rcases hd.texture hu with ⟨t, ht, he⟩ | ⟨-, -, hbacked⟩
    · rw [he]
      exact (t.lasts_isBacked hl (h.textures x t ht)).mark _
    · exact hbacked
  passes q p hp := by
    rcases hd.pass hp with ⟨hp, ha⟩ | ⟨desc, parts, rfl, rfl, hparts, hmade, hjoined, htextures⟩
    · obtain ⟨desc, m, hmade, hattached⟩ := h.passes q p hp
      refine ⟨desc, m, p.lasts_isMadeFrom desc m hl hmade,
        hattached.append ha ?_ fun x ↦ hd.of_contains⟩
      rintro x ⟨t, ht, mark, hmark⟩
      exact (hd.stays hmark).imp_left fun hstays ↦ ⟨t, ht, hstays⟩
    · refine ⟨desc, d.textures, ⟨_, parts, hparts, hmade, hjoined⟩, .made fun x hx ↦ ?_⟩
      obtain ⟨t, ht⟩ := (Pass.fit_of_partsOf hparts).exists_of_attaches hx
      exact ⟨t, ht, t.resolved, htextures ▸ ht⟩

end Device.Lineage

/-- Wherever a device gets, it is known what its passes were made of. -/
theorem Device.Reached.lineage (h : Reached l s) : Lineage l s.2.driver.calls s.1 := by
  induction h with
  | start h =>
    refine ⟨fun x t ht ↦ ?_, fun q p hp ↦ ?_⟩
    · cases (h.get?_textures x).symm.trans ht
    · cases (h.get?_passes q).symm.trans hp
  | taken hs took ih =>
    exact ih.updates (Reached.suffix hs (settle_of_ok took)).subset
      (meets_updates.ok ⟨rfl, trivial⟩ took)
  | refused hs hrefused ih =>
    exact ih.leaves (Reached.suffix hs (settle_of_error hrefused)).subset
      (meets_updates.error ⟨rfl, trivial⟩ hrefused)
  | between _ done ih =>
    cases done with
    | resize size => exact ih.leaves (List.Subset.refl _) ⟨⟨[], rfl⟩, rfl, rfl, rfl, rfl⟩
    | surround around => exact ih.leaves (List.Subset.refl _) (.refl _)

/-! ### Provenance -/

/-- The pass puts views together that its textures had. -/
structure Pass.Shows (desc : PassDesc) (views : TextureId → List (Object .view)) (calls : List Call)
    (p : Pass) : Prop where
  /-- The textures rendered into are those of the description. -/
  textures : p.textures = desc.textures
  /-- The images that were put together were images of its textures. -/
  framebuffer : ∃ info, .createFramebuffer p.framebuffer info ∈ calls ∧
    ∀ v ∈ info.views, ∃ x, desc.Attaches x ∧ v ∈ views x

theorem Pass.lasts_shows {views : TextureId → List (Object .view)} (p : Pass) :
    Lasts (p.Shows desc views) := fun _ _ hl h ↦
  have ⟨info, hinfo, hviews⟩ := h.framebuffer
  ⟨h.textures, info, hl hinfo, hviews⟩

/-- The texture is alive and has these views. -/
def TextureMap.HasViews (m : TextureMap) (views : TextureId → List (Object .view)) (x : TextureId) :
    Prop :=
  ∃ t, m.get? x = some t ∧ t.views = views x

/-- What trace and history say of what a device stores. -/
structure Device.Provenance (l : List (GraphicsDevice.Command × Option ResourceId))
    (calls : List Call) (d : Device) : Prop where
  /-- Textures have the images that they are to have. -/
  textures : ∀ x t, d.textures.get? x = some t → t.IsBacked calls
  /-- Passes show the textures that they were made of. -/
  passes : ∀ q p, d.passes.get? q = some p → ∃ desc views, p.Shows desc views calls ∧
    Attached l q desc (TextureMap.HasViews d.textures views) fun x ↦ d.textures.contains x

/-- What a pass was made of says what it shows. -/
theorem Device.Lineage.provenance (h : Lineage l calls d) : Provenance l calls d where
  textures := h.textures
  passes q p hp := by
    obtain ⟨desc, m, ⟨_, parts, hparts, hmade, hjoined⟩, hattached⟩ := h.passes q p hp
    refine ⟨desc, fun x ↦ (m.get? x).elim [] Texture.views,
      ⟨hmade.textures, _, hjoined.framebuffer, fun v hv ↦ ?_⟩, hattached.mono ?_ fun _ ↦ id⟩
    · obtain ⟨x, t, hx, ht, hv⟩ := (Pass.fit_of_partsOf hparts).exists_of_mem_viewsOf hv
      exact ⟨x, hx, ht ▸ hv⟩
    · rintro x ⟨t, ht, mark, hmark⟩
      refine ⟨_, hmark, ?_⟩
      dsimp only
      rw [ht]
      rfl

/-- Wherever a device gets, it is known where its images come from. -/
theorem Device.Reached.provenance (h : Reached l s) : Provenance l s.2.driver.calls s.1 :=
  (Reached.lineage h).provenance

end RenderTargets.Vulkan
